import QueryGate.Fault
import QueryGate.Proofs.Settings.Fields

/-!
# Validated settings

A mapping is validated field by field. Either no field is violated and the settings keep their
limits, or the report names the violated fields. Settings that were validated, or that came from
an environment, are validated once more with the same result.

A mapping gives the certificate file as a text. Settings from an environment may name one whose
path is no text; such settings are validated again as they are, but no mapping gives them.
-/

namespace QueryGate.Settings

open QueryGate.Text QueryGate.Validation

variable {entries : Entries} {settings : Settings}

/-- The values of the fields are those that a mapping gives, or the defaults. -/
def ReadFrom (entries : Entries) (settings : Settings) : Prop :=
  ∀ field, reading entries field = .ok (field.contentOf settings)

/-- The settings name a database, and their counts keep their limits. -/
structure Valid (settings : Settings) : Prop where
  databaseUrl : settings.databaseUrl ≠ ""
  maxConnections : 1 ≤ settings.maxConnections ∧ settings.maxConnections ≤ 100
  connectTimeout : 1 ≤ settings.connectTimeout ∧ settings.connectTimeout ≤ 300
  statementTimeout : 0 ≤ settings.statementTimeout

/-- What a mapping gives is a default or read by the rule of the field. -/
theorem of_reading_eq_ok (field : Field) {content : field.Content} {P : field.Content → Prop}
    (h : reading entries field = .ok content)
    (hdefault : ∀ default, field.default? = some default → P default)
    (hrule : ∀ value read, field.rule value = .ok read → P read) : P content := by
  unfold reading fieldValue at h
  split at h
  · exact hrule _ _ h
  · next hfound =>
    cases h
    exact hdefault _ hfound
  · cases h

theorem ReadFrom.valid (h : settings.ReadFrom entries) : settings.Valid where
  databaseUrl := of_reading_eq_ok .databaseUrl (P := fun name : String => name ≠ "")
    (h .databaseUrl) nofun fun _ _ hread => (nonemptyText_eq_ok_iff.mp hread).2
  maxConnections := of_reading_eq_ok .maxConnections (P := fun n : Int => 1 ≤ n ∧ n ≤ 100)
    (h .maxConnections) (by rintro _ ⟨⟩; decide)
    fun _ _ hread => (integerBetween_eq_ok_iff.mp hread).2
  connectTimeout := of_reading_eq_ok .connectTimeout (P := fun n : Int => 1 ≤ n ∧ n ≤ 300)
    (h .connectTimeout) (by rintro _ ⟨⟩; decide)
    fun _ _ hread => (integerBetween_eq_ok_iff.mp hread).2
  statementTimeout := of_reading_eq_ok .statementTimeout (P := fun n : Int => 0 ≤ n)
    (h .statementTimeout) (by rintro _ ⟨⟩; decide)
    fun _ _ hread => (integerAtLeast_eq_ok_iff.mp hread).2

/-- The certificate file that a mapping names has a path that is a text. -/
theorem ReadFrom.certificate (h : settings.ReadFrom entries) :
    ∃ certificate : Option String, settings.rootCertificate = certificate.map .ofString := by
  refine of_reading_eq_ok .rootCertificate
    (P := fun file : Option RawText => ∃ certificate : Option String,
      file = certificate.map .ofString) (h .rootCertificate) ?_ fun value file hread => ?_
  · rintro _ ⟨⟩
    exact ⟨none, rfl⟩
  · change path value = .ok file at hread
    unfold path at hread
    cases hvalue : orNull text value with
    | error issue => rw [hvalue] at hread; cases hread
    | ok certificate =>
      rw [hvalue] at hread
      exact ⟨certificate, (Except.ok.inj hread).symm⟩

/-- The message of a report that names fields. -/
def complaint (fields : List (Field × Issue)) : String :=
  "Configuration validation failed: " ++
    joinWith ", " (fields.map fun (field, issue) => field.key ++ ": " ++ issue.message)

/-- The fields with which a reading finds something wrong, in the order of their declaration. -/
def faulty (fields : Reading) : List (Field × Issue) :=
  Field.all.filterMap fun field => (refusal? (fields field)).map fun issue => (field, issue)

section

variable {fields : Reading}

theorem map_fst_faulty :
    (faulty fields).map Prod.fst =
      Field.all.filter fun field => (refusal? (fields field)).isSome := by
  rw [faulty, List.map_filterMap, ← List.filterMap_eq_filter]
  congr 1
  funext field
  cases h : refusal? (fields field) <;> simp [Option.guard, h]

theorem mem_map_fst_faulty_iff {field : Field} :
    field ∈ (faulty fields).map Prod.fst ↔ ∃ issue, fields field = .error issue := by
  rw [map_fst_faulty, List.mem_filter, and_iff_right field.mem_all]
  cases fields field <;> simp [refusal?]

theorem mem_faulty {field : Field} {issue : Issue} (h : (field, issue) ∈ faulty fields) :
    fields field = .error issue := by
  obtain ⟨other, -, hother⟩ := List.mem_filterMap.mp h
  cases hread : fields other with
  | ok content => simp [refusal?, hread] at hother
  | error found =>
    simp only [refusal?, hread, Option.map_some, Option.some.injEq, Prod.mk.injEq] at hother
    obtain ⟨rfl, rfl⟩ := hother
    exact hread

/-- The fault lists the wrong fields of a reading, in the order of their declaration, each of them
once and with its issue, and no other field. -/
def Lists (fault : Fault) (fields : Reading) (wrong : Field → Prop) : Prop :=
  ∃ listed : List (Field × Issue), listed ≠ [] ∧
    fault = .service (.configuration (complaint listed)) ∧
    (listed.map Prod.fst).Sublist Field.all ∧ (listed.map Prod.fst).Nodup ∧
    (∀ field, field ∈ listed.map Prod.fst ↔ wrong field) ∧
    ∀ field issue, (field, issue) ∈ listed → fields field = .error issue

namespace Reported

variable {checked : Checked Settings}

theorem exists_valid_iff (h : Reported fields checked) :
    (∃ settings, checked = .valid settings) ↔ faulty fields = [] := by
  have hnamed : checked.violations = [] ↔ faulty fields = [] := by
    rw [← List.map_eq_nil_iff (f := Violation.named), h.named]
    simp [faulty]
  rw [h.founded.exists_valid_iff, hnamed]

/-- The report has a line for each of the wrong fields. -/
theorem message_eq (h : Reported fields checked) {violations : List Violation}
    (hchecked : checked = .invalid violations) :
    (SettingsError.invalid violations).message = complaint (faulty fields) := by
  have hnamed : violations.map (·.named) =
      (faulty fields).map fun (field, issue) => (field.key, issue) := by
    have hfields := h.named
    rw [hchecked] at hfields
    rw [faulty, List.map_filterMap]
    simpa [Checked.violations, Function.comp_def] using hfields
  have hlines := congrArg
    (List.map fun (named : String × Issue) => named.1 ++ ": " ++ named.2.message) hnamed
  rw [List.map_map, List.map_map] at hlines
  exact congrArg (fun lines => "Configuration validation failed: " ++ joinWith ", " lines) hlines

/-- The settings are those that were read, or the report names the wrong fields. -/
theorem cases (h : Reported fields checked) :
    (∃ settings, (∀ field, fields field = .ok (field.contentOf settings)) ∧
      (accepted checked).mapError Fault.ofSettingsError = .ok settings) ∨
    faulty fields ≠ [] ∧ (accepted checked).mapError Fault.ofSettingsError =
      .error (.service (.configuration (complaint (faulty fields)))) := by
  cases hchecked : checked with
  | valid settings =>
    left
    exact ⟨settings, (h.valid_iff settings).mp hchecked, rfl⟩
  | invalid violations =>
    right
    have hnone : ¬ ∃ settings, checked = .valid settings := by simp [hchecked]
    refine ⟨mt h.exists_valid_iff.mpr hnone, ?_⟩
    rw [← h.message_eq hchecked]
    rfl

theorem eq_ok_iff (h : Reported fields checked) :
    (accepted checked).mapError Fault.ofSettingsError = .ok settings ↔
      ∀ field, fields field = .ok (field.contentOf settings) := by
  rw [← h.valid_iff]
  cases checked <;> simp [accepted, Except.mapError]

theorem exists_eq_ok_iff (h : Reported fields checked) :
    (∃ settings, (accepted checked).mapError Fault.ofSettingsError = .ok settings) ↔
      ∀ field, ¬ ∃ issue, fields field = .error issue := by
  have hnone : faulty fields = [] ↔ ∀ field, ¬ ∃ issue, fields field = .error issue := by
    rw [← List.map_eq_nil_iff (f := Prod.fst), List.eq_nil_iff_forall_not_mem]
    simp only [mem_map_fst_faulty_iff]
  rw [← hnone, ← h.exists_valid_iff]
  cases checked <;> simp [accepted, Except.mapError]

theorem lists (h : Reported fields checked) {fault : Fault} {wrong : Field → Prop}
    (hfault : (accepted checked).mapError Fault.ofSettingsError = .error fault)
    (hwrong : ∀ field, (∃ issue, fields field = .error issue) ↔ wrong field) :
    Lists fault fields wrong := by
  rcases h.cases with ⟨settings, -, hok⟩ | ⟨hne, herror⟩
  · rw [hok] at hfault
    cases hfault
  · have hsublist : ((faulty fields).map Prod.fst).Sublist Field.all := by
      rw [map_fst_faulty]
      exact List.filter_sublist
    exact ⟨faulty fields, hne, Except.error.inj (hfault.symm.trans herror), hsublist,
      hsublist.nodup Field.nodup_all, fun field => mem_map_fst_faulty_iff.trans (hwrong field),
      fun _ _ => mem_faulty⟩

/-- Checks that read the same fields come to the same result. -/
theorem result_eq (h : Reported fields checked) {other : Checked Settings}
    (hother : Reported fields other) :
    (accepted other).mapError Fault.ofSettingsError =
      (accepted checked).mapError Fault.ofSettingsError := by
  rcases h.cases with ⟨settings, hread, hok⟩ | ⟨hne, herror⟩
  · rw [hok]
    exact hother.eq_ok_iff.mpr hread
  · rcases hother.cases with ⟨settings, hread, -⟩ | ⟨-, herrorOther⟩
    · exact absurd ((h.exists_valid_iff).mp ⟨settings, (h.valid_iff settings).mpr hread⟩) hne
    · rw [herror, herrorOther]

end Reported

end

/-- The value that settings give a field of a mapping. -/
def Field.valueOf (settings : Settings) (certificate : Value) : Field → Value
  | .databaseUrl => .text settings.databaseUrl
  | .allowWrites => .bool settings.allowWrites
  | .maxConnections => .int settings.maxConnections
  | .connectTimeout => .int settings.connectTimeout
  | .statementTimeout => .int settings.statementTimeout
  | .debug => .bool settings.debug
  | .rootCertificate => certificate
  | .requireTls => .bool settings.requireTls

theorem reading_entries (certificate : Value) (field : Field) :
    reading (settings.entries certificate) field =
      field.rule (field.valueOf settings certificate) := by
  cases field <;> rfl

theorem Valid.reading_entries (h : settings.Valid) (certificate : Value) {field : Field}
    (hfield : field ≠ .rootCertificate) :
    reading (settings.entries certificate) field = .ok (field.contentOf settings) := by
  rw [Settings.reading_entries]
  cases field with
  | databaseUrl => exact nonemptyText_eq_ok_iff.mpr ⟨rfl, h.databaseUrl⟩
  | maxConnections => exact integerBetween_eq_ok_iff.mpr ⟨rfl, h.maxConnections⟩
  | connectTimeout => exact integerBetween_eq_ok_iff.mpr ⟨rfl, h.connectTimeout⟩
  | statementTimeout => exact integerAtLeast_eq_ok_iff.mpr ⟨rfl, h.statementTimeout⟩
  | rootCertificate => exact absurd rfl hfield
  | _ => rfl

/-- The value that a mapping has for a certificate file. -/
def certificateValue (certificate : Option String) : Value :=
  (certificate.map Value.text).getD .null

theorem path_certificateValue (certificate : Option String) :
    path (certificateValue certificate) = .ok (certificate.map .ofString) := by
  cases certificate <;> rfl

theorem Valid.readFrom_entries (h : settings.Valid) {certificate : Option String}
    (hcertificate : settings.rootCertificate = certificate.map .ofString) :
    settings.ReadFrom (settings.entries (certificateValue certificate)) := by
  intro field
  by_cases hfield : field = .rootCertificate
  · obtain rfl := hfield
    exact (path_certificateValue certificate).trans (congrArg Except.ok hcertificate.symm)
  · exact h.reading_entries _ hfield

/-- Two mappings give all fields the same values. -/
def SameFields (entries other : Entries) : Prop :=
  ∀ field : Field, other.find? field.key = entries.find? field.key

theorem SameFields.reading_eq {other : Entries} (h : SameFields entries other) :
    reading other = reading entries := by
  funext field
  unfold reading fieldValue
  rw [h field]

/-- Validate, and report what is wrong as an error of the service. -/
def validated (candidate : Candidate) : Except Fault Settings :=
  (validate candidate).mapError .ofSettingsError

/-- Take the settings from an environment, and report what is wrong as an error of the service. -/
def loaded (environment : Environment) : Except Fault Settings :=
  (ofEnvironment environment).mapError .ofSettingsError

/-- Settings that are validated once more, as they are or as a mapping of their fields, do not
change. There is such a mapping if the path of the certificate file is a text. -/
structure Settled (settings : Settings) : Prop where
  asSettings : validated (.settings settings) = .ok settings
  asMapping : ∀ certificate : Option String,
    settings.rootCertificate = certificate.map .ofString →
      validated (.mapping (settings.entries (certificateValue certificate))) = .ok settings

/-- The name of a database that is not empty is read as it is. -/
theorem databaseName_eq_ok_iff {databaseUrl : RawText} {name : String} :
    databaseName databaseUrl = .ok name ↔ databaseUrl = .ofString name ∧ name ≠ "" := by
  unfold databaseName
  cases htext : databaseUrl.text? with
  | none =>
    refine iff_of_false nofun ?_
    rintro ⟨rfl, -⟩
    rw [RawText.text?_ofString] at htext
    cases htext
  | some s =>
    obtain rfl := RawText.text?_eq_some.mp htext
    rw [RawText.ofString_inj]
    exact nonemptyText_eq_ok_iff.trans (and_congr_left' ⟨Except.ok.inj, congrArg Except.ok⟩)

theorem Valid.settled (h : settings.Valid) : settings.Settled where
  asSettings := by
    refine (recheck_reported _ settings).eq_ok_iff.mpr fun field => ?_
    cases field with
    | databaseUrl => exact databaseName_eq_ok_iff.mpr ⟨rfl, h.databaseUrl⟩
    | rootCertificate => rfl
    | _ => exact h.reading_entries .null nofun
  asMapping certificate hcertificate :=
    (check_reported _).eq_ok_iff.mpr (h.readFrom_entries hcertificate)

/-- Settings that were accepted when they were checked once more keep their limits. -/
theorem valid_of_rereading {databaseUrl : RawText} {given : Settings}
    (h : ∀ field, rereading databaseUrl given field = .ok (field.contentOf settings)) :
    settings.Valid where
  databaseUrl := (databaseName_eq_ok_iff.mp (h .databaseUrl)).2
  maxConnections :=
    (integerBetween_eq_ok_iff.mp ((reading_entries .null _).symm.trans (h .maxConnections))).2
  connectTimeout :=
    (integerBetween_eq_ok_iff.mp ((reading_entries .null _).symm.trans (h .connectTimeout))).2
  statementTimeout :=
    (integerAtLeast_eq_ok_iff.mp ((reading_entries .null _).symm.trans (h .statementTimeout))).2

theorem valid_of_loaded_eq_ok {environment : Environment}
    (h : loaded environment = .ok settings) : settings.Valid := by
  unfold loaded ofEnvironment at h
  dsimp only at h
  split at h
  · cases h
  · exact valid_of_rereading ((recheck_reported _ _).eq_ok_iff.mp h)

/-- What validation makes of a mapping. -/
structure Validates (entries : Entries) : Prop where
  accepts_iff : (∃ settings, validated (.mapping entries) = .ok settings) ↔
    ∀ field : Field, ¬ field.Violated entries
  accepted : ∀ settings, validated (.mapping entries) = .ok settings →
    settings.Valid ∧ settings.ReadFrom entries ∧ settings.Settled ∧
      ∃ certificate : Option String, settings.rootCertificate = certificate.map .ofString
  refused : ∀ fault, validated (.mapping entries) = .error fault →
    Lists fault (reading entries) fun field => field.Violated entries
  unknown : ∀ other, SameFields entries other →
    validated (.mapping other) = validated (.mapping entries)

/-- A mapping is accepted exactly if it violates no field. The settings then keep their limits and
have the values of the mapping; otherwise the report lists the violated fields in the order of their
declaration. Unknown keys do not matter. Settings that were accepted are settled, and so are those
that an environment gives. -/
theorem validation_exact (entries : Entries) (environment : Environment) :
    Validates entries ∧ ∀ settings, loaded environment = .ok settings → settings.Settled := by
  have hreported := check_reported entries
  refine ⟨?_, fun settings h => (valid_of_loaded_eq_ok h).settled⟩
  constructor
  case accepts_iff =>
    exact hreported.exists_eq_ok_iff.trans
      (forall_congr' fun field => not_congr (reading_eq_error_iff field))
  case accepted =>
    intro settings h
    have hread : settings.ReadFrom entries := hreported.eq_ok_iff.mp h
    exact ⟨hread.valid, hread, hread.valid.settled, hread.certificate⟩
  case refused => exact fun fault h => hreported.lists h reading_eq_error_iff
  case unknown =>
    intro other hsame
    exact hreported.result_eq (hsame.reading_eq ▸ check_reported other)

/-- Numeric texts are read leniently, and unknown keys are passed over. -/
example :
    validated (.mapping [("database_url", .text "postgresql://localhost"),
      ("max_connections", .text " 5.0 "), ("debug", .int 1), ("extra", .null)]) =
      .ok ⟨"postgresql://localhost", false, 5, 30, 30000, true, none, false⟩ := by rfl

/-- Three fields are violated: one is missing, one is too small, and one is no flag. -/
example :
    validated (.mapping [("debug", .text "maybe"), ("connection_timeout", .int 0)]) =
      .error (.service (.configuration ("Configuration validation failed: " ++
        "database_url: Field required, " ++
        "connection_timeout: Input should be greater than or equal to 1, " ++
        "debug: Input should be a valid boolean, unable to interpret input"))) := by rfl

end QueryGate.Settings
