import QueryGate.Proofs.Validation.Reporting
import QueryGate.Settings

/-!
# The fields of the settings

The eight fields in the order of their declaration, what each of them holds, and what it admits. A
reading says for each field what it holds or what is wrong with it. Settings are checked as their
fields are read: they are accepted exactly if every field could be read, and otherwise the report
names the other fields, each of them once and in this order, with what is wrong with it.
-/

namespace QueryGate

open QueryGate.Text QueryGate.Validation

namespace Settings

inductive Field where
  | databaseUrl
  | allowWrites
  | maxConnections
  | connectTimeout
  | statementTimeout
  | debug
  | rootCertificate
  | requireTls
  deriving DecidableEq, Repr

namespace Field

/-- The fields in the order of their declaration. -/
def all : List Field :=
  [.databaseUrl, .allowWrites, .maxConnections, .connectTimeout, .statementTimeout, .debug,
   .rootCertificate, .requireTls]

theorem mem_all (field : Field) : field ∈ all := by
  cases field <;> decide

theorem nodup_all : all.Nodup := by decide

/-- The name of a field in a mapping and in reports. -/
def key : Field → String
  | .databaseUrl => "database_url"
  | .allowWrites => "allow_write_ops"
  | .maxConnections => "max_connections"
  | .connectTimeout => "connection_timeout"
  | .statementTimeout => "statement_timeout"
  | .debug => "debug"
  | .rootCertificate => "ssl_root_cert"
  | .requireTls => "require_ssl"

/-- The values that a field admits: a text that is not empty for the database, counts within
their bounds, flags, and the path of a file or nothing. -/
def Admits : Field → Value → Prop
  | .databaseUrl, value => ∃ s, text value = .ok s ∧ s ≠ ""
  | .allowWrites, value | .debug, value | .requireTls, value => ∃ b, boolean value = .ok b
  | .maxConnections, value => ∃ n, integer value = .ok n ∧ 1 ≤ n ∧ n ≤ 100
  | .connectTimeout, value => ∃ n, integer value = .ok n ∧ 1 ≤ n ∧ n ≤ 300
  | .statementTimeout, value => ∃ n, integer value = .ok n ∧ 0 ≤ n
  | .rootCertificate, value => value = .null ∨ ∃ s, text value = .ok s

/-- The mapping gives the field a value that is not admitted, or no value although the database
must be named. -/
def Violated (entries : Entries) (field : Field) : Prop :=
  match entries.find? field.key with
  | some value => ¬ field.Admits value
  | none => field = .databaseUrl

/-- What a field holds. -/
def Content : Field → Type
  | .databaseUrl => String
  | .allowWrites | .debug | .requireTls => Bool
  | .maxConnections | .connectTimeout | .statementTimeout => Int
  | .rootCertificate => Option RawText

/-- The rule by which a value is read. -/
def rule : (field : Field) → Rule field.Content
  | .databaseUrl => nonemptyText
  | .allowWrites | .debug | .requireTls => boolean
  | .maxConnections => integerFrom 1 (some 100)
  | .connectTimeout => integerFrom 1 (some 300)
  | .statementTimeout => integerFrom 0 none
  | .rootCertificate => path

/-- What a field holds if a mapping has no value for it. -/
def default? : (field : Field) → Option field.Content
  | .databaseUrl => none
  | .allowWrites | .debug | .requireTls => some false
  | .maxConnections => some (10 : Int)
  | .connectTimeout => some (30 : Int)
  | .statementTimeout => some (30000 : Int)
  | .rootCertificate => some none

/-- What a field of given settings holds. -/
def contentOf (settings : Settings) : (field : Field) → field.Content
  | .databaseUrl => settings.databaseUrl
  | .allowWrites => settings.allowWrites
  | .maxConnections => settings.maxConnections
  | .connectTimeout => settings.connectTimeout
  | .statementTimeout => settings.statementTimeout
  | .debug => settings.debug
  | .rootCertificate => settings.rootCertificate
  | .requireTls => settings.requireTls

/-- A field is admitted exactly the values that can be read. -/
theorem admits_iff (field : Field) {value : Value} :
    field.Admits value ↔ ∃ content, field.rule value = .ok content := by
  cases field with
  | databaseUrl => exact exists_congr fun s => nonemptyText_eq_ok_iff.symm
  | maxConnections => exact exists_congr fun n => integerBetween_eq_ok_iff.symm
  | connectTimeout => exact exists_congr fun n => integerBetween_eq_ok_iff.symm
  | statementTimeout => exact exists_congr fun n => integerAtLeast_eq_ok_iff.symm
  | rootCertificate =>
    have hmap : (∃ content, path value = .ok content) ↔ ∃ s, orNull text value = .ok s := by
      unfold path
      cases orNull text value <;> simp [Except.map]
    exact exists_orNull_eq_ok_iff.symm.trans hmap.symm
  | allowWrites => exact .rfl
  | debug => exact .rfl
  | requireTls => exact .rfl

theorem default?_eq_none_iff (field : Field) : field.default? = none ↔ field = .databaseUrl := by
  cases field <;> simp [default?]

end Field

/-- What each field holds, or what is wrong with it. -/
abbrev Reading := (field : Field) → Except Issue field.Content

/-- The fields as a mapping gives them. -/
def reading (entries : Entries) : Reading := fun field =>
  fieldValue field.key field.default? field.rule entries

/-- The fields of settings that are checked once more, with a raw text for the database. -/
def rereading (databaseUrl : RawText) (settings : Settings) : Reading
  | .databaseUrl => databaseName databaseUrl
  | .rootCertificate => .ok settings.rootCertificate
  | field => reading (settings.entries .null) field

theorem reading_eq_error_iff {entries : Entries} (field : Field) :
    (∃ issue, reading entries field = .error issue) ↔ field.Violated entries := by
  unfold reading fieldValue Field.Violated
  cases entries.find? field.key with
  | some value =>
    dsimp only
    rw [field.admits_iff]
    cases field.rule value <;> simp
  | none =>
    dsimp only
    rw [← field.default?_eq_none_iff]
    cases field.default? <;> simp

/-- Settings are checked as their fields are read. -/
structure Reported (reading : Reading) (checked : Checked Settings) : Prop where
  valid_iff : ∀ settings, checked = .valid settings ↔
    ∀ field, reading field = .ok (field.contentOf settings)
  named : checked.violations.map (·.named) = Field.all.filterMap fun field =>
    (refusal? (reading field)).map fun issue => (field.key, issue)
  founded : checked.Founded

/-- The fields are reported one by one. -/
private theorem checkWith_reported {fields : Reading} {databaseUrl : Checked String}
    {rootCertificate : Checked (Option RawText)} {entries : Entries}
    (hurl : Reports "database_url" (fields .databaseUrl) databaseUrl)
    (hcertificate : Reports "ssl_root_cert" (fields .rootCertificate) rootCertificate)
    (hrest : ∀ field, field ≠ .databaseUrl → field ≠ .rootCertificate →
      fields field = reading entries field) :
    Reported fields (checkWith databaseUrl rootCertificate entries) := by
  have hoptional (field : Field) (default : field.Content)
      (h : fields field = fieldValue field.key (some default) field.rule entries) :
      Reports field.key (fields field)
        (Validation.optional field.key default field.rule.check entries) :=
    h ▸ optional_reports _ _ _ _
  have hwrites := hoptional .allowWrites false (hrest _ nofun nofun)
  have hconnections := hoptional .maxConnections (10 : Int) (hrest _ nofun nofun)
  have hconnect := hoptional .connectTimeout (30 : Int) (hrest _ nofun nofun)
  have hstatement := hoptional .statementTimeout (30000 : Int) (hrest _ nofun nofun)
  have hdebug := hoptional .debug false (hrest _ nofun nofun)
  have htls := hoptional .requireTls false (hrest _ nofun nofun)
  constructor
  case valid_iff =>
    intro settings
    simp only [checkWith, Functor.map, Seq.seq, Checked.seq_eq_valid, Checked.map_eq_valid]
    constructor
    · rintro ⟨_, _, ⟨_, _, ⟨_, _, ⟨_, _, ⟨_, _, ⟨_, _, ⟨_, _, ⟨_, hdatabaseUrl, rfl⟩,
        hallowWrites, rfl⟩, hmaxConnections, rfl⟩, hconnectTimeout, rfl⟩, hstatementTimeout, rfl⟩,
        hdebugging, rfl⟩, hrootCertificate, rfl⟩, hrequireTls, rfl⟩ field
      cases field with
      | databaseUrl => exact hurl.eq_valid_iff.mp hdatabaseUrl
      | allowWrites => exact hwrites.eq_valid_iff.mp hallowWrites
      | maxConnections => exact hconnections.eq_valid_iff.mp hmaxConnections
      | connectTimeout => exact hconnect.eq_valid_iff.mp hconnectTimeout
      | statementTimeout => exact hstatement.eq_valid_iff.mp hstatementTimeout
      | debug => exact hdebug.eq_valid_iff.mp hdebugging
      | rootCertificate => exact hcertificate.eq_valid_iff.mp hrootCertificate
      | requireTls => exact htls.eq_valid_iff.mp hrequireTls
    · intro h
      exact ⟨_, _, ⟨_, _, ⟨_, _, ⟨_, _, ⟨_, _, ⟨_, _, ⟨_, _, ⟨_,
        hurl.eq_valid_iff.mpr (h .databaseUrl), rfl⟩, hwrites.eq_valid_iff.mpr (h .allowWrites),
        rfl⟩, hconnections.eq_valid_iff.mpr (h .maxConnections), rfl⟩,
        hconnect.eq_valid_iff.mpr (h .connectTimeout), rfl⟩,
        hstatement.eq_valid_iff.mpr (h .statementTimeout), rfl⟩, hdebug.eq_valid_iff.mpr (h .debug),
        rfl⟩, hcertificate.eq_valid_iff.mpr (h .rootCertificate), rfl⟩,
        htls.eq_valid_iff.mpr (h .requireTls), rfl⟩
  case named =>
    have hnamed := Checked.named_seq (Checked.named_seq (Checked.named_seq (Checked.named_seq
      (Checked.named_seq (Checked.named_seq (Checked.named_seq (Checked.named_map mk hurl.named)
        hwrites.named) hconnections.named) hconnect.named) hstatement.named) hdebug.named)
        hcertificate.named) htls.named
    refine hnamed.trans ?_
    simp only [Field.all, List.filterMap_eq_flatMap_toList, List.flatMap_cons, List.flatMap_nil,
      List.append_nil, List.append_assoc, Field.key]
  case founded =>
    exact (((((((hurl.founded.map _).seq hwrites.founded).seq hconnections.founded).seq
      hconnect.founded).seq hstatement.founded).seq hdebug.founded).seq hcertificate.founded).seq
      htls.founded

theorem check_reported (entries : Entries) : Reported (reading entries) (check entries) :=
  checkWith_reported (required_reports _ _ _) (optional_reports _ _ _ _) fun _ _ _ => rfl

theorem recheck_reported (databaseUrl : RawText) (settings : Settings) :
    Reported (rereading databaseUrl settings) (recheck databaseUrl settings) := by
  refine checkWith_reported ?_ (.accepted _) fun field hurl hcertificate => ?_
  · unfold checkDatabase
    change Reports _ (databaseName databaseUrl) _
    cases databaseName databaseUrl with
    | ok name => exact .accepted name
    | error issue => exact .refused issue _
  · cases field with
    | databaseUrl => exact absurd rfl hurl
    | rootCertificate => exact absurd rfl hcertificate
    | _ => rfl

end Settings

end QueryGate
