import QueryGate.Proofs.Number.Numeral
import QueryGate.Proofs.Settings.Checking
import QueryGate.Proofs.Text.Trim
import QueryGate.Settings

/-!
# Settings from the environment

A count is read by way of the double nearest to the exact value of its text. So every integer up
to `2 ^ 53` is read as itself, however its decimal text is written. Any other numeral gives the
integer part of the nearest double, and the default stands in for numerals beyond the doubles and
for all other texts.

An environment gives settings exactly if it names a database, by a text that is not blank, and its
three counts keep their limits. Flags and the path of a file are never the reason why it does not:
a flag that cannot be read is replaced by its default, and any path is taken. The report names the
counts that are out of their limits, and the database if its name holds bytes that belong to no
character.
-/

namespace QueryGate

open QueryGate.Number QueryGate.Text

variable {text : String} {x : Double}

theorem readCount_of_read (h : readLiberal (trim text.toList) = some x) (default : Int) :
    readCount (some text) default = if x.isFinite then x.truncate else default := by
  rw [readCount, h]

theorem readCount_of_none (h : readLiberal (trim text.toList) = none) (default : Int) :
    readCount (some text) default = default := by
  rw [readCount, h]

/-- A numeral is read as the integer part of the double nearest to it. -/
theorem readCount_of_numeral {v : ℚ} (h : Numeral text.toList v) (default : Int) :
    if |v| < Double.overflow then
      ∃ x : Double, x.Nearest v ∧ readCount (some text) default = Double.towardZero x.value
    else readCount (some text) default = default := by
  have hread := readLiberal_of_numeral h
  split at hread
  · next hless =>
    obtain ⟨x, hnearest, hx⟩ := hread
    have hfinite : x.isFinite = true := by
      cases hnearest.canonical
      rfl
    rw [if_pos hless]
    refine ⟨x, hnearest, ?_⟩
    rw [readCount_of_read hx, if_pos hfinite, Double.truncate_eq_towardZero]
  · next hmore =>
    obtain ⟨negative, hx⟩ := hread
    rw [if_neg hmore]
    exact readCount_of_read hx default

theorem readCount_of_not_numeral (h : ∀ v, ¬ Numeral text.toList v) (default : Int) :
    readCount (some text) default = default := by
  cases hread : readLiberal (trim text.toList) with
  | none => exact readCount_of_none hread default
  | some x =>
    rw [readCount_of_read hread]
    split
    · next hfinite =>
      obtain ⟨v, hv⟩ := exists_numeral hread hfinite
      exact absurd hv (h v)
    · rfl

/-- An integer of at most 53 binary digits loses nothing on the way through a double. -/
theorem readCount_of_integerText {n : Int} (hn : |n| ≤ 2 ^ 53)
    (h : IntegerText text.toList n) (default : Int) : readCount (some text) default = n := by
  obtain ⟨y, hcanonical, hy⟩ := Double.exists_canonical_int hn
  have hless : |(n : ℚ)| < Double.overflow := by
    calc |(n : ℚ)| ≤ 2 ^ 53 := by exact_mod_cast hn
      _ < 2 ^ 54 := by norm_num
      _ ≤ Double.overflow := Double.two_pow_le_overflow (by norm_num)
  have hread := readCount_of_numeral h.numeral default
  rw [if_pos hless] at hread
  obtain ⟨x, hnearest, hx⟩ := hread
  rw [hx, hnearest.value_eq hcanonical hy, Double.towardZero, Int.floor_intCast, Int.ceil_intCast,
    ite_self]

/-- The integers up to `2 ^ 53` are read exactly, the plain text of each being one of its texts.
Every numeral is read as the integer part of the double nearest to it, and the default stands in
for what lies beyond the doubles and for texts that are no numerals. -/
theorem readCount_exact (default : Int) :
    (∀ n : Int, |n| ≤ 2 ^ 53 → IntegerText (toString n).toList n ∧
      ∀ text : String, IntegerText text.toList n → readCount (some text) default = n) ∧
    ∀ text : String,
      (∀ v, Numeral text.toList v →
        if |v| < Double.overflow then
          ∃ x : Double, x.Nearest v ∧ readCount (some text) default = Double.towardZero x.value
        else readCount (some text) default = default) ∧
      ((∀ v, ¬ Numeral text.toList v) → readCount (some text) default = default) :=
  ⟨fun n hn => ⟨integerText_toString n, fun _ h => readCount_of_integerText hn h default⟩,
    fun _ => ⟨fun _ h => readCount_of_numeral h default,
      fun h => readCount_of_not_numeral h default⟩⟩

/-- Digits of other scripts, a zero in front, underscores, a fraction of zeros and blank characters
leave the greatest of these integers as it is, and a fraction is cut off. A word is no numeral. -/
theorem readCount_exact_texts :
    (|(9007199254740992 : Int)| ≤ 2 ^ 53 ∧
      IntegerText " +0９_٠07199254740_992.00\n".toList 9007199254740992 ∧
      readCount (some " +0９_٠07199254740_992.00\n") 10 = 9007199254740992) ∧
    (Numeral "-27.5e-1".toList (-2.75) ∧ |(-2.75 : ℚ)| < Double.overflow ∧
      ∃ x : Double, x.Nearest (-2.75) ∧
        readCount (some "-27.5e-1") 10 = Double.towardZero x.value) ∧
    (∀ v, ¬ Numeral "ten".toList v) ∧ readCount (some "ten") 10 = 10 := by
  obtain ⟨hinteger, hother⟩ := readCount_exact 10
  have hblank : Blank [] := fun _ hc => nomatch hc
  have hsize : |(9007199254740992 : Int)| ≤ 2 ^ 53 := by norm_num
  have htext : IntegerText " +0９_٠07199254740_992.00\n".toList 9007199254740992 := by
    have hrun : DigitRun ['0', '９', '_', '٠', '0', '7', '1', '9', '9', '2', '5', '4', '7', '4', '0',
        '_', '9', '9', '2'] [0, 9, 0, 0, 7, 1, 9, 9, 2, 5, 4, 7, 4, 0, 9, 9, 2] :=
      .digit rfl (.grouped rfl (.digit rfl (.digit rfl (.digit rfl (.digit rfl (.digit rfl
        (.digit rfl (.digit rfl (.digit rfl (.digit rfl (.digit rfl (.digit rfl (.grouped rfl
        (.digit rfl (.digit rfl (.last rfl))))))))))))))))
    have hzeros : ZeroFraction ['.', '0', '0'] :=
      .zeros (.digit rfl (.last rfl)) (List.forall_mem_cons.mpr ⟨rfl, by simp⟩)
    have hvalue : (ofDigits [0, 9, 0, 0, 7, 1, 9, 9, 2, 5, 4, 7, 4, 0, 9, 9, 2] : Int) =
        9007199254740992 := by decide
    have hfront : Blank [' '] := blank_cons.mpr ⟨by decide, hblank⟩
    have hback : Blank ['\n'] := blank_cons.mpr ⟨by decide, hblank⟩
    rw [← hvalue]
    exact .parts hfront .plus hrun hzeros hback
  have hnumeral : Numeral "-27.5e-1".toList (-2.75) := by
    have hsignificand : Significand ['2', '7', '.', '5'] [2, 7, 5] 1 :=
      .both (.digit rfl (.last rfl)) (.last rfl)
    have hexponent : ExponentText ['e', '-', '1'] (-1) :=
      .marked (.inl rfl) .minus (.last rfl)
    have hvalue : Double.signed true ((ofDigits [2, 7, 5] : ℕ) * 10 ^ ((-1 : ℤ) - (1 : ℕ))) =
        -2.75 := by
      have hdigits : ofDigits [2, 7, 5] = 275 := by decide
      rw [hdigits, Double.signed, if_pos rfl]
      norm_num
    rw [← hvalue]
    exact .decimal hblank hblank (.parts .minus hsignificand hexponent)
  have hless : |(-2.75 : ℚ)| < Double.overflow :=
    calc |(-2.75 : ℚ)| < 2 ^ 2 := by norm_num [abs_of_neg]
      _ ≤ Double.overflow := Double.two_pow_le_overflow (by norm_num)
  have hword : ∀ v, ¬ Numeral "ten".toList v := not_numeral_of_none (by decide)
  have hfraction := (hother "-27.5e-1").1 _ hnumeral
  rw [if_pos hless] at hfraction
  exact ⟨⟨hsize, htext, (hinteger _ hsize).2 _ htext⟩, ⟨hnumeral, hless, hfraction⟩, hword,
    (hother "ten").2 hword⟩

end QueryGate

namespace QueryGate.Settings

open QueryGate.Text QueryGate.Validation

variable {environment : Environment} {url : String} {raw : RawText} {settings : Settings}

/-- The environment names a database by a text that is not blank. -/
def Names (environment : Environment) (url : String) : Prop :=
  environment.get? "DATABASE_URL" = some (.ofString url) ∧ ¬ Blank url.toList

/-- The environment has a name for the database, which is no text. -/
def NamesStray (environment : Environment) (raw : RawText) : Prop :=
  environment.get? "DATABASE_URL" = some raw ∧ raw.text? = none

/-- A count of the settings is out of its limits. -/
def OutOfLimits (settings : Settings) : Field → Prop
  | .maxConnections => ¬ (1 ≤ settings.maxConnections ∧ settings.maxConnections ≤ 100)
  | .connectTimeout => ¬ (1 ≤ settings.connectTimeout ∧ settings.connectTimeout ≤ 300)
  | .statementTimeout => ¬ 0 ≤ settings.statementTimeout
  | _ => False

theorem Names.ne_empty (h : Names environment url) : url ≠ "" := by
  rintro rfl
  exact h.2 (fun _ hmem => nomatch hmem)

/-- Apart from the name of the database only counts can be wrong. -/
theorem rereading_eq_error_iff (raw : RawText) (field : Field) :
    (∃ issue, rereading raw settings field = .error issue) ↔
      (field = .databaseUrl ∧ ∃ issue, databaseName raw = .error issue) ∨
        settings.OutOfLimits field := by
  have hcount (field : Field) (hfield : field ≠ .databaseUrl) {P : Prop}
      (h : field.Admits (field.valueOf settings .null) ↔ P) :
      (∃ issue, reading (settings.entries .null) field = .error issue) ↔
        (field = .databaseUrl ∧ ∃ issue, databaseName raw = .error issue) ∨ ¬ P := by
    rw [reading_entries, ← h, field.admits_iff]
    cases field.rule (field.valueOf settings .null) <;> simp [hfield]
  have hinteger (n : Int) (within : Int → Prop) :
      (∃ m, integer (.int n) = .ok m ∧ within m) ↔ within n := by
    simp [integer]
  have hflag {b : Bool} : (∃ issue, boolean (.bool b) = .error issue) ↔ False := by
    simp [boolean]
  cases field with
  | databaseUrl => exact ⟨fun h => .inl ⟨rfl, h⟩, fun h => h.elim And.right False.elim⟩
  | maxConnections => exact hcount .maxConnections nofun (hinteger _ fun n => 1 ≤ n ∧ n ≤ 100)
  | connectTimeout => exact hcount .connectTimeout nofun (hinteger _ fun n => 1 ≤ n ∧ n ≤ 300)
  | statementTimeout => exact hcount .statementTimeout nofun (hinteger _ fun n => 0 ≤ n)
  | rootCertificate => exact iff_of_false nofun fun h => h.elim (fun h => nomatch h.1) id
  | allowWrites => exact hflag.trans (by simp [OutOfLimits])
  | debug => exact hflag.trans (by simp [OutOfLimits])
  | requireTls => exact hflag.trans (by simp [OutOfLimits])

theorem valid_iff (h : settings.databaseUrl ≠ "") :
    settings.Valid ↔ ∀ field, ¬ settings.OutOfLimits field := by
  constructor
  · intro hvalid field
    cases field with
    | maxConnections => exact not_not_intro hvalid.maxConnections
    | connectTimeout => exact not_not_intro hvalid.connectTimeout
    | statementTimeout => exact not_not_intro hvalid.statementTimeout
    | _ => exact id
  · exact fun hlimits => ⟨h, not_not.mp (hlimits .maxConnections),
      not_not.mp (hlimits .connectTimeout), not_not.mp (hlimits .statementTimeout)⟩

theorem rereading_wrong_iff (h : url ≠ "") (field : Field) :
    (∃ issue, rereading (.ofString url) settings field = .error issue) ↔
      settings.OutOfLimits field := by
  have hname : databaseName (.ofString url) = .ok url := databaseName_eq_ok_iff.mpr ⟨rfl, h⟩
  rw [rereading_eq_error_iff, hname]
  exact or_iff_right fun h => nomatch h.2

theorem validated_settings_eq_ok_iff {other : Settings} (h : settings.databaseUrl ≠ "") :
    validated (.settings settings) = .ok other ↔ settings.Valid ∧ other = settings := by
  constructor
  · intro hother
    have hvalid : settings.Valid := by
      rw [valid_iff h]
      have hreported := recheck_reported (.ofString settings.databaseUrl) settings
      have hfields := hreported.exists_eq_ok_iff.mp ⟨other, hother⟩
      exact fun field => (rereading_wrong_iff h field).not.mp (hfields field)
    exact ⟨hvalid, Except.ok.inj (hother.symm.trans hvalid.settled.asSettings)⟩
  · rintro ⟨hvalid, rfl⟩
    exact hvalid.settled.asSettings

theorem loaded_of_names (h : Names environment url) :
    loaded environment = validated (.settings (stated environment url)) := by
  have hblank : ¬ (RawText.ofString url).isBlank = true := by
    rw [RawText.isBlank_ofString, allBlank_iff]
    exact h.2
  rw [loaded, ofEnvironment, h.1]
  dsimp only [Option.getD]
  rw [if_neg hblank, RawText.escaped_ofString]
  rfl

theorem loaded_of_namesStray (h : NamesStray environment raw) :
    loaded environment =
      (accepted (recheck raw (stated environment raw.escaped))).mapError .ofSettingsError := by
  have hblank : ¬ raw.isBlank = true := by
    intro hblank
    obtain ⟨s, rfl⟩ := RawText.exists_eq_ofString_of_isBlank hblank
    rw [NamesStray, RawText.text?_ofString] at h
    cases h.2
  rw [loaded, ofEnvironment, h.1]
  dsimp only [Option.getD]
  rw [if_neg hblank]

theorem loaded_of_unnamed (h : ¬ ∃ url, Names environment url)
    (hstray : ∀ raw, ¬ NamesStray environment raw) :
    loaded environment = .error (.service (.configuration
      "Configuration validation failed: DATABASE_URL: DATABASE_URL is required")) := by
  have hblank : ((environment.get? "DATABASE_URL").getD "").isBlank = true := by
    cases hvalue : environment.get? "DATABASE_URL" with
    | none => exact RawText.isBlank_ofString ""
    | some raw =>
      cases htext : raw.text? with
      | none => exact absurd ⟨hvalue, htext⟩ (hstray raw)
      | some url =>
        obtain rfl := RawText.text?_eq_some.mp htext
        rw [Option.getD_some, RawText.isBlank_ofString, allBlank_iff]
        by_contra hinked
        exact h ⟨url, hvalue, hinked⟩
  rw [loaded, ofEnvironment, if_pos hblank]
  rfl

theorem readFlag_false_iff {value : Option String} :
    readFlag value false = true ↔
      ∃ s, value = some s ∧ String.ofList (lower (trim s.toList)) ∈ flagOnWords := by
  cases value with
  | none => simp [readFlag]
  | some s => simp [readFlag]

theorem not_names_of_namesStray (h : NamesStray environment raw) :
    ¬ ∃ url, Names environment url := by
  rintro ⟨url, hurl, -⟩
  obtain rfl := Option.some.inj (hurl.symm.trans h.1)
  cases (RawText.text?_ofString url).symm.trans h.2

theorem loaded_eq_ok_iff :
    loaded environment = .ok settings ↔
      ∃ url, Names environment url ∧ (stated environment url).Valid ∧
        settings = stated environment url := by
  by_cases hnames : ∃ url, Names environment url
  · obtain ⟨url, hurl⟩ := hnames
    have hone (other : String) (hother : Names environment other) : other = url :=
      RawText.ofString_inj.mp (Option.some.inj (hother.1.symm.trans hurl.1))
    have hne : (stated environment url).databaseUrl ≠ "" := hurl.ne_empty
    rw [loaded_of_names hurl, validated_settings_eq_ok_iff hne]
    constructor
    · exact fun h => ⟨url, hurl, h⟩
    · rintro ⟨other, hother, h⟩
      rwa [hone other hother] at h
  · refine iff_of_false (fun hok => ?_) fun ⟨url, hurl, _⟩ => hnames ⟨url, hurl⟩
    by_cases hstray : ∃ raw, NamesStray environment raw
    · obtain ⟨raw, hraw⟩ := hstray
      rw [loaded_of_namesStray hraw, (recheck_reported _ _).eq_ok_iff] at hok
      obtain ⟨rfl, -⟩ := databaseName_eq_ok_iff.mp (hok .databaseUrl)
      cases (RawText.text?_ofString _).symm.trans hraw.2
    · rw [loaded_of_unnamed hnames (not_exists.mp hstray)] at hok
      cases hok

/-- What an environment gives. -/
structure Loads (environment : Environment) : Prop where
  accepts_iff : (∃ settings, loaded environment = .ok settings) ↔
    ∃ url, Names environment url ∧ (stated environment url).Valid
  accepted : ∀ settings, loaded environment = .ok settings →
    ∃ url, Names environment url ∧ settings = stated environment url
  unnamed : (¬ ∃ url, Names environment url) → (∀ raw, ¬ NamesStray environment raw) →
    loaded environment = .error (.service (.configuration
      "Configuration validation failed: DATABASE_URL: DATABASE_URL is required"))
  refused : ∀ url, Names environment url → ∀ fault, loaded environment = .error fault →
    Lists fault (rereading (.ofString url) (stated environment url))
      (stated environment url).OutOfLimits
  stray : ∀ raw, NamesStray environment raw → ∃ fault, loaded environment = .error fault ∧
    Lists fault (rereading raw (stated environment raw.escaped)) fun field =>
      field = .databaseUrl ∨ (stated environment raw.escaped).OutOfLimits field
  writes : ∀ settings, loaded environment = .ok settings → settings.allowWrites = true →
    ∃ s, environment.text? "DANGEROUSLY_ALLOW_WRITE_OPS" = some s ∧
      String.ofList (lower (trim s.toList)) ∈ ["true", "1", "yes", "on", "y", "t"]

/-- An environment gives settings exactly if it names a database by a text and the counts that it
states keep their limits, and then the settings are the stated ones. Otherwise the report says that
no database is named, or lists the counts that are out of their limits, together with the database
if its name is no text. Writes are allowed only by one of six words. -/
theorem environment_exact (environment : Environment) : Loads environment := by
  constructor
  case accepts_iff =>
    simp only [loaded_eq_ok_iff]
    constructor
    · rintro ⟨_, url, hurl, hvalid, -⟩
      exact ⟨url, hurl, hvalid⟩
    · rintro ⟨url, hurl, hvalid⟩
      exact ⟨_, url, hurl, hvalid, rfl⟩
  case accepted =>
    intro settings h
    obtain ⟨url, hurl, -, hstated⟩ := loaded_eq_ok_iff.mp h
    exact ⟨url, hurl, hstated⟩
  case unnamed => exact loaded_of_unnamed
  case refused =>
    intro url hurl fault h
    rw [loaded_of_names hurl] at h
    exact (recheck_reported _ _).lists h (rereading_wrong_iff hurl.ne_empty)
  case stray =>
    intro raw hraw
    have hname : databaseName raw = .error .undecodableText := by
      rw [databaseName, hraw.2]
    cases hloaded : loaded environment with
    | ok settings =>
      obtain ⟨url, hurl, -⟩ := loaded_eq_ok_iff.mp hloaded
      exact absurd ⟨url, hurl⟩ (not_names_of_namesStray hraw)
    | error fault =>
      rw [loaded_of_namesStray hraw] at hloaded
      refine ⟨fault, rfl, (recheck_reported _ _).lists hloaded fun field => ?_⟩
      rw [rereading_eq_error_iff, hname]
      simp
  case writes =>
    intro settings h hwrites
    obtain ⟨url, -, -, rfl⟩ := loaded_eq_ok_iff.mp h
    exact readFlag_false_iff.mp hwrites

/-- A byte that belongs to no character. -/
def strayByte : RawUnit := .byte 0x7f

/-- The name of a database, with such a byte at its end. -/
def strayName : RawText := ("postgresql://" : String) ++ ⟨[strayByte]⟩

/-- The name is not blank, and all counts have their defaults. -/
theorem strayName_refused :
    let environment : Environment := [("DATABASE_URL", strayName)]
    strayName.isBlank = false ∧ (stated environment strayName.escaped).Valid ∧
      (loaded environment).mapError Fault.message =
        .error ("Configuration validation failed: database_url: Input should be a valid string, " ++
          "unable to parse raw data as a unicode string" : String) :=
  ⟨by decide +kernel, ⟨by decide +kernel, by decide +kernel, by decide +kernel, by decide +kernel⟩,
    by decide +kernel⟩

/-- A count that is no number is replaced by its default; words for flags are read in any case. -/
example :
    (loaded [("DATABASE_URL", "host=db"), ("PG_MAX_CONNECTIONS", "many"),
      ("DEBUG", " Yes ")]).toOption =
      some ⟨"host=db", false, 10, 30, 30000, true, none, false⟩ := by decide +kernel

end QueryGate.Settings
