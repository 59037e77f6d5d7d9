import QueryGate.Log.Line
import QueryGate.Proofs.Json.Ascii
import QueryGate.Proofs.Json.Floats

/-!
# Log lines in JSON

The line of a record is in printable ASCII, whatever the message, the names and the fields carry,
so that a record never takes more than one line. If its fields hold finite floats only, the line is
read back as one object, with every key once: the standard members in their order, and behind them
the fields under new keys. A field replaces the standard member of the same key, and what JSON does
not know stands there as its text.

A record has no line if its time is beyond the years of timestamps, or if an integer has too many
digits to be written.
-/

namespace QueryGate

open QueryGate.Text

mutual

/-- The floats of the value are finite, and no key stands twice in an object. -/
def Value.Finite : Value → Prop
  | .float x => x.Canonical
  | .list items => FiniteItems items
  | .object entries => (entries.map Prod.fst).Nodup ∧ FiniteEntries entries
  | _ => True

def FiniteItems : List Value → Prop
  | [] => True
  | item :: items => item.Finite ∧ FiniteItems items

def FiniteEntries : List (String × Value) → Prop
  | [] => True
  | (_, value) :: entries => value.Finite ∧ FiniteEntries entries

end

/-- The value is of a kind that JSON does not know. -/
def Value.Foreign : Value → Prop
  | .bytes _ | .decimal _ | .date _ | .time _ | .datetime _ | .duration _ | .range .. => True
  | _ => False

mutual

/-- The document says what the value is: by itself where JSON knows its kind, and otherwise by the
text of the value. -/
inductive Expresses : Value → Json → Prop
  | null : Expresses .null .null
  | bool (b : Bool) : Expresses (.bool b) (.bool b)
  | int (n : Int) : Expresses (.int n) (.int n)
  | float (x : Number.Double) : Expresses (.float x) (.float x)
  | text (s : String) : Expresses (.text s) (.text s)
  | list {items : List Value} {documents : List Json} (h : ExpressesItems items documents) :
      Expresses (.list items) (.list documents)
  | object {entries : List (String × Value)} {members : List (String × Json)}
      (h : ExpressesEntries entries members) : Expresses (.object entries) (.object members)
  | foreign {value : Value} (h : value.Foreign) : Expresses value (.text value.display)

inductive ExpressesItems : List Value → List Json → Prop
  | nil : ExpressesItems [] []
  | cons {item : Value} {document : Json} {items : List Value} {documents : List Json}
      (h : Expresses item document) (rest : ExpressesItems items documents) :
      ExpressesItems (item :: items) (document :: documents)

inductive ExpressesEntries : List (String × Value) → List (String × Json) → Prop
  | nil : ExpressesEntries [] []
  | cons (key : String) {value : Value} {document : Json} {entries : List (String × Value)}
      {members : List (String × Json)} (h : Expresses value document)
      (rest : ExpressesEntries entries members) :
      ExpressesEntries ((key, value) :: entries) ((key, document) :: members)

end

namespace Log

mutual

theorem expresses_fieldDocument : ∀ value, Expresses value (fieldDocument value)
  | .null => .null
  | .bool b => .bool b
  | .int n => .int n
  | .float x => .float x
  | .text s => .text s
  | .list items => .list (expresses_fieldDocuments items)
  | .object entries => .object (expresses_fieldMembers entries)
  | .bytes _ | .decimal _ | .date _ | .time _ | .datetime _ | .duration _ | .range .. =>
      .foreign trivial

theorem expresses_fieldDocuments : ∀ items, ExpressesItems items (fieldDocuments items)
  | [] => .nil
  | item :: items => .cons (expresses_fieldDocument item) (expresses_fieldDocuments items)

theorem expresses_fieldMembers : ∀ entries, ExpressesEntries entries (fieldMembers entries)
  | [] => .nil
  | (key, value) :: entries =>
      .cons key (expresses_fieldDocument value) (expresses_fieldMembers entries)

end

theorem map_fst_fieldMembers (entries : List (String × Value)) :
    (fieldMembers entries).map Prod.fst = entries.map Prod.fst := by
  induction entries with
  | nil => rfl
  | cons entry entries ih => rw [fieldMembers, List.map_cons, List.map_cons, ih]

theorem lookup_fieldMembers (entries : List (String × Value)) (key : String) :
    (fieldMembers entries).lookup key = (entries.lookup key).map fieldDocument := by
  induction entries with
  | nil => rfl
  | cons entry entries ih =>
    obtain ⟨k, value⟩ := entry
    rw [fieldMembers, List.lookup_cons, List.lookup_cons, ih]
    split <;> rfl

mutual

theorem readable_fieldDocument : ∀ value : Value, value.Finite →
    Json.Readable jsonStyle (fieldDocument value)
  | .float _, h => Json.readable_float_of_canonical jsonStyle h
  | .list items, h => readable_fieldDocuments items h
  | .object entries, h =>
      ⟨map_fst_fieldMembers entries ▸ h.1, readable_fieldMembers entries h.2⟩
  | .null, _ | .bool _, _ | .int _, _ | .text _, _ | .bytes _, _ | .decimal _, _ | .date _, _
  | .time _, _ | .datetime _, _ | .duration _, _ | .range .., _ => trivial

theorem readable_fieldDocuments : ∀ items, FiniteItems items →
    Json.ReadableItems jsonStyle (fieldDocuments items)
  | [], _ => trivial
  | item :: items, h => ⟨readable_fieldDocument item h.1, readable_fieldDocuments items h.2⟩

theorem readable_fieldMembers : ∀ entries, FiniteEntries entries →
    Json.ReadableMembers jsonStyle (fieldMembers entries)
  | [], _ => trivial
  | (_, value) :: entries, h =>
      ⟨readable_fieldDocument value h.1, readable_fieldMembers entries h.2⟩

end

mutual

theorem integersFit_fieldDocument : ∀ value : Value, value.fits = true →
    (fieldDocument value).integersFit = true
  | .int _, h => h
  | .list items, h => integersFit_fieldDocuments items h
  | .object entries, h => integersFit_fieldMembers entries h
  | .null, _ | .bool _, _ | .float _, _ | .text _, _ | .bytes _, _ | .decimal _, _ | .date _, _
  | .time _, _ | .datetime _, _ | .duration _, _ | .range .., _ => rfl

theorem integersFit_fieldDocuments : ∀ items, allFit items = true →
    Json.itemsFit (fieldDocuments items) = true
  | [], _ => rfl
  | item :: items, h => by
      rw [allFit, Bool.and_eq_true] at h
      rw [fieldDocuments, Json.itemsFit, integersFit_fieldDocument item h.1,
        integersFit_fieldDocuments items h.2, Bool.and_self]

theorem integersFit_fieldMembers : ∀ entries, entriesFit entries = true →
    Json.membersFit (fieldMembers entries) = true
  | [], _ => rfl
  | (_, value) :: entries, h => by
      rw [entriesFit, Bool.and_eq_true] at h
      rw [fieldMembers, Json.membersFit, integersFit_fieldDocument value h.1,
        integersFit_fieldMembers entries h.2, Bool.and_self]

end

theorem jsonStyle_regular : jsonStyle.Regular where
  opening _ := Json.spaces_nil
  between _ := ⟨[' '], rfl, by simp [Json.Spaces, Json.isJsonSpace]⟩
  closing _ := Json.spaces_nil

theorem jsonStyle_ascii : jsonStyle.Ascii where
  escapes c hc := decide_eq_true (Nat.succ_le_of_lt hc)
  nan := by decide
  infinity := by decide
  opening _ := Json.asciiText_nil
  between _ := (by decide : Json.AsciiText [',', ' '])
  closing _ := Json.asciiText_nil

end Log

namespace Json

section

variable {members : List (String × Json)} {key : String} {value : Json}

theorem lookup_cons_eq_ite (members : List (String × Json)) (key : String) (value : Json)
    (k : String) :
    List.lookup k ((key, value) :: members) = if k = key then some value else members.lookup k := by
  rw [List.lookup_cons]
  by_cases hkey : k = key
  · rw [if_pos hkey, beq_iff_eq.mpr hkey]
  · rw [if_neg hkey, beq_eq_false_iff_ne.mpr hkey]

theorem lookup_put (members : List (String × Json)) (key : String) (value : Json) (k : String) :
    (put members key value).lookup k = if k = key then some value else members.lookup k := by
  induction members with
  | nil => exact lookup_cons_eq_ite [] key value k
  | cons member members ih =>
    obtain ⟨k', v⟩ := member
    rw [put, lookup_cons_eq_ite]
    split
    · next heq =>
      subst heq
      rw [lookup_cons_eq_ite]
      split <;> rfl
    · next hne =>
      rw [lookup_cons_eq_ite, ih]
      by_cases hkey : k = key
      · subst hkey
        rw [if_neg (Ne.symm hne), if_pos rfl, if_pos rfl]
      · rw [if_neg hkey, if_neg hkey]

/-- A key that is put stays where it stands, and a new one comes last. -/
theorem map_fst_put (members : List (String × Json)) (key : String) (value : Json) :
    (put members key value).map Prod.fst = if key ∈ members.map Prod.fst then members.map Prod.fst
      else members.map Prod.fst ++ [key] := by
  by_cases hmem : key ∈ members.map Prod.fst
  · rw [if_pos hmem]
    induction members with
    | nil => cases hmem
    | cons member members ih =>
      obtain ⟨k, v⟩ := member
      rw [put]
      split
      · rfl
      · next hne =>
        rw [List.map_cons, List.mem_cons] at hmem
        rw [List.map_cons, ih (hmem.resolve_left (Ne.symm hne)), List.map_cons]
  · rw [if_neg hmem, put_of_new hmem, List.map_append]
    rfl

theorem readableMembers_put {style : Style} (h : ReadableMembers style members)
    (hvalue : Readable style value) : ReadableMembers style (put members key value) := by
  induction members with
  | nil => exact ⟨hvalue, trivial⟩
  | cons member members ih =>
    obtain ⟨k, v⟩ := member
    rw [put]
    split
    · exact ⟨hvalue, h.2⟩
    · exact ⟨h.1, ih h.2⟩

end

theorem readable_ofRaw {style : Style} (raw : RawText) : Readable style (ofRaw raw) := by
  rw [ofRaw]
  cases hraw : raw.text? with
  | some s => trivial
  | none => exact hraw

theorem integersFit_ofRaw (raw : RawText) : (ofRaw raw).integersFit = true := by
  rw [ofRaw]
  cases raw.text? <;> rfl

theorem membersFit_iff {members : List (String × Json)} :
    membersFit members = true ↔ ∀ member ∈ members, member.2.integersFit = true := by
  induction members with
  | nil => simp [membersFit]
  | cons member members ih => simp [membersFit, ih]

/-- Where no key stands twice, every member is found under its key. -/
theorem lookup_of_mem {members : List (String × Json)} (hnodup : (members.map Prod.fst).Nodup)
    {key : String} {value : Json} (h : (key, value) ∈ members) :
    members.lookup key = some value := by
  induction members with
  | nil => cases h
  | cons member members ih =>
    obtain ⟨k, v⟩ := member
    rw [List.map_cons, List.nodup_cons] at hnodup
    rw [lookup_cons_eq_ite]
    rcases List.mem_cons.mp h with heq | hmem
    · obtain ⟨rfl, rfl⟩ := Prod.mk.inj heq
      rw [if_pos rfl]
    · have hne : key ≠ k := fun hkey =>
        hnodup.1 (List.mem_map.mpr ⟨(key, value), hmem, hkey⟩)
      rw [if_neg hne, ih hnodup.2 hmem]

end Json

namespace Log

section

variable {later : List (String × Json)}

theorem overlayMembers_cons (base later : List (String × Json)) (key : String) (value : Json) :
    overlayMembers base ((key, value) :: later) =
      overlayMembers (Json.put base key value) later := rfl

/-- A member that is laid over the others is found, and otherwise what was there before. -/
theorem lookup_overlayMembers (h : (later.map Prod.fst).Nodup) (base : List (String × Json))
    (key : String) :
    (overlayMembers base later).lookup key = (later.lookup key).or (base.lookup key) := by
  induction later generalizing base with
  | nil => rfl
  | cons member later ih =>
    obtain ⟨k, value⟩ := member
    rw [List.map_cons, List.nodup_cons] at h
    rw [overlayMembers_cons, ih h.2, Json.lookup_put, Json.lookup_cons_eq_ite]
    split
    · next hkey =>
      have hnone : later.lookup key = none := by
        rw [List.lookup_eq_none_iff]
        rintro member hmember
        rw [bne_iff_ne]
        intro heq
        exact h.1 (List.mem_map.mpr ⟨member, hmember, heq.symm.trans hkey⟩)
      rw [hnone, Option.none_or, Option.some_or]
    · rfl

/-- The keys stay in their order, with the new ones behind them. -/
theorem map_fst_overlayMembers (h : (later.map Prod.fst).Nodup) (base : List (String × Json)) :
    (overlayMembers base later).map Prod.fst = base.map Prod.fst ++
      (later.map Prod.fst).filter fun key => key ∉ base.map Prod.fst := by
  induction later generalizing base with
  | nil => exact (List.append_nil _).symm
  | cons member later ih =>
    obtain ⟨key, value⟩ := member
    rw [List.map_cons, List.nodup_cons] at h
    rw [overlayMembers_cons, ih h.2, Json.map_fst_put, List.map_cons]
    by_cases hkey : key ∈ base.map Prod.fst
    · rw [if_pos hkey, List.filter_cons_of_neg (by simpa using hkey)]
    · have hsame : (later.map Prod.fst).filter (fun k => k ∉ base.map Prod.fst ++ [key]) =
          (later.map Prod.fst).filter fun k => k ∉ base.map Prod.fst := by
        refine List.filter_congr fun k hk => ?_
        have hne : k ≠ key := fun heq => h.1 (heq ▸ hk)
        simp [hne]
      rw [if_neg hkey, hsame, List.filter_cons_of_pos (by simpa using hkey), List.append_assoc]
      rfl

theorem readableMembers_overlayMembers {style : Json.Style} {base : List (String × Json)}
    (hbase : Json.ReadableMembers style base) (hlater : Json.ReadableMembers style later) :
    Json.ReadableMembers style (overlayMembers base later) := by
  induction later generalizing base with
  | nil => exact hbase
  | cons member later ih =>
    exact ih (Json.readableMembers_put hbase hlater.1) hlater.2

end

/-- The time lies in the years that timestamps are written for. -/
def Origin.Dated (origin : Origin) : Prop :=
  timestampBounds.1 ≤ origin.millis ∧ origin.millis ≤ timestampBounds.2

/-- The fields of the record are an object, if it has any. -/
def Record.Structured (record : Record) : Prop :=
  ∀ fields ∈ record.fields, ∃ entries, fields = .object entries

/-- The entries of the fields. -/
def Record.context (record : Record) : Entries :=
  match record.fields with
  | some (.object entries) => entries
  | _ => []

/-- The keys of the members that a line has without the fields of its record. -/
def Record.keys (record : Record) : List String :=
  ["timestamp", "level", "logger", "message", "module", "function", "line"] ++
    (record.cause.describe?.map fun _ => "exception").toList

/-- The members of a line: those of the record without its fields, and the fields in the place of
these or behind them. -/
structure Members (origin : Origin) (time : String) (record : Record)
    (members : List (String × Json)) : Prop where
  keys : members.map Prod.fst =
    record.keys ++ record.context.keys.filter fun key => key ∉ record.keys
  nodup : (members.map Prod.fst).Nodup
  context : ∀ key value, record.context.find? key = some value →
    ∃ document, members.lookup key = some document ∧ Expresses value document
  standard : ∀ key, record.context.find? key = none →
    members.lookup key = (standardMembers origin time record).lookup key

theorem timestamp_isOk_iff {origin : Origin} :
    (∃ time, timestamp origin.millis = .ok time) ↔ origin.Dated := by
  rw [timestamp]
  by_cases hout : origin.millis < timestampBounds.1 ∨ timestampBounds.2 < origin.millis
  · rw [if_pos hout]
    refine iff_of_false nofun fun hdated => ?_
    obtain ⟨hfirst, hlast⟩ := hdated
    omega
  · rw [if_neg hout]
    rw [not_or, Int.not_lt, Int.not_lt] at hout
    exact iff_of_true ⟨_, rfl⟩ hout

section

variable {origin : Origin} {record : Record} {time : String}

theorem map_fst_standardMembers (origin : Origin) (time : String) (record : Record) :
    (standardMembers origin time record).map Prod.fst = record.keys := by
  rw [standardMembers, Record.keys]
  cases record.cause.describe? <;> rfl

theorem nodup_keys (record : Record) : record.keys.Nodup := by
  rw [Record.keys]
  cases record.cause.describe? <;> · dsimp only [Option.map, Option.toList]; decide

theorem readable_standardMembers {style : Json.Style} :
    Json.ReadableMembers style (standardMembers origin time record) := by
  have hmessage : Json.Readable style (.ofRaw record.message) := Json.readable_ofRaw _
  rw [standardMembers]
  cases record.cause.describe? with
  | none => exact ⟨trivial, trivial, trivial, hmessage, trivial, trivial, trivial, trivial⟩
  | some cause =>
    exact ⟨trivial, trivial, trivial, hmessage, trivial, trivial, trivial,
      Json.readable_ofRaw cause, trivial⟩

/-- Only the line number may be too long. -/
theorem standardMembers_fit {key : String} {document : Json}
    (h : (standardMembers origin time record).lookup key = some document)
    (hline : key = lineMember → Number.fits origin.line = true) : document.integersFit = true := by
  have hmessage := Json.integersFit_ofRaw record.message
  have hmem : (key, document) ∈ standardMembers origin time record := by
    obtain ⟨front, back, hmembers, -⟩ := List.lookup_eq_some_iff.mp h
    rw [hmembers]
    simp
  have hcause : ∀ cause, (Json.ofRaw cause).integersFit = true := Json.integersFit_ofRaw
  rw [standardMembers, List.mem_append] at hmem
  rcases hmem with hmem | hmem
  · simp only [List.mem_cons, Prod.mk.injEq, List.not_mem_nil, or_false] at hmem
    rcases hmem with ⟨-, rfl⟩ | ⟨-, rfl⟩ | ⟨-, rfl⟩ | ⟨-, rfl⟩ | ⟨-, rfl⟩ | ⟨-, rfl⟩ | ⟨hkey, rfl⟩
    · rfl
    · rfl
    · rfl
    · exact hmessage
    · rfl
    · rfl
    · exact hline hkey
  · rw [Option.mem_toList, Option.map_eq_some_iff] at hmem
    obtain ⟨cause, -, hmember⟩ := hmem
    rw [← (Prod.mk.inj hmember).2]
    exact hcause cause

/-- The line of a record with structured fields is the text of one object, if it has a line. -/
theorem jsonLine_eq (hrecord : record.Structured) : jsonLine origin record = (do
    let time ← timestamp origin.millis
    if lineFits origin record.context then
      return jsonStyle.text (.object (overlayMembers (standardMembers origin time record)
        (fieldMembers record.context)))
    else throw .oversized) := by
  rw [jsonLine, Record.context]
  cases hfields : record.fields with
  | none => rfl
  | some fields =>
    obtain ⟨entries, rfl⟩ := hrecord fields hfields
    rfl

theorem jsonLine_isOk_iff (hrecord : record.Structured) :
    (∃ line, jsonLine origin record = .ok line) ↔
      origin.Dated ∧ lineFits origin record.context = true := by
  rw [jsonLine_eq hrecord, ← timestamp_isOk_iff]
  cases timestamp origin.millis with
  | error fault => exact iff_of_false nofun fun h => by cases h.1.choose_spec
  | ok time => cases lineFits origin record.context with
    | true => exact iff_of_true ⟨_, rfl⟩ ⟨⟨time, rfl⟩, rfl⟩
    | false => exact iff_of_false nofun fun h => by cases h.2

theorem members_overlayMembers (h : record.context.keys.Nodup) : Members origin time record
    (overlayMembers (standardMembers origin time record) (fieldMembers record.context)) := by
  have hnodup : ((fieldMembers record.context).map Prod.fst).Nodup := by
    rw [map_fst_fieldMembers]
    exact h
  have hkeys := map_fst_overlayMembers hnodup (standardMembers origin time record)
  rw [map_fst_fieldMembers, map_fst_standardMembers] at hkeys
  refine ⟨hkeys, ?_, fun key value hvalue => ?_, fun key hnone => ?_⟩
  · rw [hkeys]
    refine (nodup_keys record).append (h.filter _) ?_
    intro key hkey hfilter
    exact (of_decide_eq_true (List.mem_filter.mp hfilter).2) hkey
  · rw [lookup_overlayMembers hnodup, lookup_fieldMembers]
    refine ⟨fieldDocument value, ?_, expresses_fieldDocument value⟩
    change record.context.lookup key = some value at hvalue
    rw [hvalue]
    rfl
  · rw [lookup_overlayMembers hnodup, lookup_fieldMembers]
    change record.context.lookup key = none at hnone
    rw [hnone]
    rfl

/-- A line has room for all integers of its members. -/
theorem integersFit_overlayMembers (hnodup : record.context.keys.Nodup)
    (hfits : lineFits origin record.context = true) :
    (Json.object (overlayMembers (standardMembers origin time record)
      (fieldMembers record.context))).integersFit = true := by
  rw [lineFits, Bool.and_eq_true, Bool.or_eq_true] at hfits
  obtain ⟨hentries, hline⟩ := hfits
  have hfields := Json.membersFit_iff.mp (integersFit_fieldMembers _ hentries)
  have hkeys : ((fieldMembers record.context).map Prod.fst).Nodup := by
    rw [map_fst_fieldMembers]
    exact hnodup
  refine Json.membersFit_iff.mpr fun member hmember => ?_
  obtain ⟨key, document⟩ := member
  have hlookup := Json.lookup_of_mem (members_overlayMembers hnodup).nodup hmember
  rw [lookup_overlayMembers hkeys] at hlookup
  -- A member is one of the fields, or it is a standard member that no field replaces.
  cases hfield : (fieldMembers record.context).lookup key with
  | some field =>
    rw [hfield, Option.some_or, Option.some.injEq] at hlookup
    subst hlookup
    obtain ⟨front, back, hmembers, -⟩ := List.lookup_eq_some_iff.mp hfield
    exact hfields (key, field) (hmembers ▸ by simp)
  | none =>
    rw [hfield, Option.none_or] at hlookup
    refine standardMembers_fit hlookup fun hkey => hline.resolve_right fun hreplaced => ?_
    rw [lookup_fieldMembers, hkey, Option.map_eq_none_iff] at hfield
    change (record.context.lookup lineMember).isSome = true at hreplaced
    rw [hfield] at hreplaced
    cases hreplaced

/-- A record with structured fields has a line exactly if its time has a timestamp and its integers
can be written. The line is in printable ASCII. If no float in the fields is infinite or a NaN, it
is read back as one object, with the members of the record and each key once. -/
theorem jsonLine_readable (hrecord : record.Structured) :
    ((∃ line, jsonLine origin record = .ok line) ↔
      origin.Dated ∧ lineFits origin record.context = true) ∧
    ∀ line, jsonLine origin record = .ok line →
      Json.AsciiText line.toList ∧
        ((Value.object record.context).Finite →
          ∃ time members, timestamp origin.millis = .ok time ∧
            Json.ofText line = some (.object members) ∧ Members origin time record members) := by
  refine ⟨jsonLine_isOk_iff hrecord, fun line hline => ?_⟩
  obtain ⟨hdated, hfits⟩ := (jsonLine_isOk_iff hrecord).mp ⟨line, hline⟩
  obtain ⟨time, htime⟩ := timestamp_isOk_iff.mpr hdated
  rw [jsonLine_eq hrecord, htime, hfits] at hline
  obtain rfl := Except.ok.inj hline
  refine ⟨?_, fun hfinite => ⟨time, _, htime, ?_, members_overlayMembers hfinite.1⟩⟩
  · rw [Json.Style.text, String.toList_ofList]
    exact Json.asciiText_print jsonStyle_ascii _ 0
  · have hmembers : Members origin time record _ := members_overlayMembers hfinite.1
    have hreadable : Json.Readable jsonStyle (.object (overlayMembers
        (standardMembers origin time record) (fieldMembers record.context))) :=
      ⟨hmembers.nodup, readableMembers_overlayMembers readable_standardMembers
        (readable_fieldMembers record.context hfinite.2)⟩
    rw [Json.ofText_text jsonStyle_regular hreadable, integersFit_overlayMembers hfinite.1 hfits]
    rfl

end

/-- A message that quotes the end of a line and a member of the next one is only a message, and the
fields replace one standard member and add one. -/
theorem jsonLine_readable_quoted :
    let origin : Origin := ⟨"/gate/tools", "run", 7, 0⟩
    let context : Entries := [("day", .date ⟨2024, 2, 29⟩),
      ("level", .list [.text "\u2028😀", .float (.finite true (3 * 2 ^ 51) 1022)])]
    let record : Record :=
      ⟨.error, "gate", "\"\x7d\n\x7b\"level\": \"DEBUG\"", some (.object context), .absent⟩
    record.Structured ∧ (Value.object record.context).Finite ∧
      ∃ line members, jsonLine origin record = .ok line ∧ Json.AsciiText line.toList ∧
        Json.ofText line = some (.object members) ∧
        members.map Prod.fst = ["timestamp", "level", "logger", "message", "module", "function",
          "line", "exception", "day"] ∧
        members.lookup "message" = some (.ofRaw record.message) ∧
        ∃ document, members.lookup "day" = some document ∧
          Expresses (.date ⟨2024, 2, 29⟩) document := by
  intro origin context record
  have hdated : origin.Dated := ⟨by decide, by decide⟩
  have hstructured : record.Structured := fun fields hfields =>
    ⟨context, (Option.mem_some.mp hfields).symm⟩
  have hfloat : (Number.Double.finite true (3 * 2 ^ 51) 1022).Canonical :=
    .finite true (by decide) (by decide) (.inr (by decide))
  have hfinite : (Value.object record.context).Finite :=
    ⟨by decide, trivial, ⟨trivial, hfloat, trivial⟩, trivial⟩
  obtain ⟨hexists, hlines⟩ :
      ((∃ line, jsonLine origin record = .ok line) ↔
        origin.Dated ∧ lineFits origin record.context = true) ∧ _ := jsonLine_readable hstructured
  obtain ⟨line, hline⟩ := hexists.mpr ⟨hdated, by decide⟩
  obtain ⟨hascii, hread⟩ := hlines line hline
  obtain ⟨time, members, htime, hmembers, hparts⟩ := hread hfinite
  refine ⟨hstructured, hfinite, line, members, hline, hascii, hmembers, ?_, ?_, ?_⟩
  · exact hparts.keys.trans (by decide)
  · exact (hparts.standard "message" (by decide)).trans rfl
  · exact hparts.context "day" _ rfl

end Log

end QueryGate
