import QueryGate.Payload.Record
import QueryGate.Proofs.Json.RoundTrip

/-!
# Plain values

A plain value is one that a document stands for: it is written as that document, unless it is nested
deeper than payloads allow. Then it is not written at all. A document with a text that has stray
bytes stands for no value.
-/

namespace QueryGate

open QueryGate.Payload

mutual

/-- The value that a document stands for. -/
def Value.ofJson? : Json → Option Value
  | .null => some .null
  | .bool b => some (.bool b)
  | .int n => some (.int n)
  | .float x => some (.float x)
  | .text s => some (.text s)
  | .raw _ => none
  | .list items => do return .list (← Value.listOfJson? items)
  | .object members => do return .object (← Entries.ofJson? members)

def Value.listOfJson? : List Json → Option (List Value)
  | [] => some []
  | item :: items => do
      let value ← Value.ofJson? item
      return value :: (← Value.listOfJson? items)

def Entries.ofJson? : List (String × Json) → Option (List (String × Value))
  | [] => some []
  | (key, document) :: members => do
      let value ← Value.ofJson? document
      return (key, value) :: (← Entries.ofJson? members)

end

theorem Value.ofJson?_list {items : List Json} {value : Value} :
    Value.ofJson? (.list items) = some value ↔
      ∃ values, Value.listOfJson? items = some values ∧ .list values = value := by
  simp [Value.ofJson?, Option.bind_eq_some_iff]

theorem Value.ofJson?_object {members : List (String × Json)} {value : Value} :
    Value.ofJson? (.object members) = some value ↔
      ∃ entries, Entries.ofJson? members = some entries ∧ .object entries = value := by
  simp [Value.ofJson?, Option.bind_eq_some_iff]

theorem Value.listOfJson?_cons {item : Json} {items : List Json} {values : List Value} :
    Value.listOfJson? (item :: items) = some values ↔
      ∃ value rest, Value.ofJson? item = some value ∧ Value.listOfJson? items = some rest ∧
        value :: rest = values := by
  simp [Value.listOfJson?, Option.bind_eq_some_iff]

theorem Entries.ofJson?_cons {key : String} {document : Json} {members : List (String × Json)}
    {entries : Entries} : Entries.ofJson? ((key, document) :: members) = some entries ↔
      ∃ value rest, Value.ofJson? document = some value ∧ Entries.ofJson? members = some rest ∧
        (key, value) :: rest = entries := by
  simp [Entries.ofJson?, Option.bind_eq_some_iff]

mutual

/-- How many levels of values there are, the value itself included. The text of a range counts as
a value below the range. -/
def Value.depth : Value → Nat
  | .list items => Value.listDepth items + 1
  | .object entries => Entries.depth entries + 1
  | .range .. => 2
  | _ => 1

/-- The levels of the deepest item. -/
def Value.listDepth : List Value → Nat
  | [] => 0
  | item :: items => max item.depth (Value.listDepth items)

/-- The levels of the deepest value under a key. -/
def Entries.depth : Entries → Nat
  | [] => 0
  | (_, value) :: entries => max value.depth (Entries.depth entries)

end

namespace Payload

open Json (Readable)

/-- The members stand for the row; no key stands twice in an object, and every float is finite and
reads back. -/
def RowOf (members : List (String × Json)) (row : Entries) : Prop :=
  Readable style (.object members) ∧ Entries.ofJson? members = some row

/-- What there is room for is written; what has more levels is not. -/
def ifWithin {α : Type} (depth room : Nat) (document : α) : Except Unwritable α :=
  if depth ≤ room then .ok document else .error .tooDeep

section

variable {α β γ : Type}

theorem ifWithin_bind (depth more room : Nat) (a : α) (b : β) (f : α → β → γ) :
    (do let x ← ifWithin depth room a; let y ← ifWithin more room b; return f x y) =
      ifWithin (max depth more) room (f a b) := by
  simp only [ifWithin, Nat.max_le]
  by_cases hdepth : depth ≤ room
  · by_cases hmore : more ≤ room <;> simp only [hdepth, hmore] <;> rfl
  · simp only [hdepth]
    rfl

theorem ifWithin_map (depth room : Nat) (a : α) (f : α → β) :
    (do return f (← ifWithin depth room a)) = ifWithin (depth + 1) (room + 1) (f a) := by
  simp only [ifWithin, Nat.add_le_add_iff_right]
  split <;> rfl

end

/-- The value that a document stands for is written as the document, if there is room for it. -/
def WritesBack (room : Nat) (document : Json) : Prop :=
  ∀ value, Value.ofJson? document = some value →
    contentWithin room value = ifWithin value.depth room document

theorem contentItems_ofJson {room : Nat} {items : List Json} {values : List Value}
    (h : ∀ item ∈ items, WritesBack room item) (hvalues : Value.listOfJson? items = some values) :
    contentItems room values = ifWithin (Value.listDepth values) room items := by
  induction items generalizing values with
  | nil =>
    obtain rfl := Option.some.inj hvalues
    rfl
  | cons item items ih =>
    obtain ⟨value, rest, hvalue, hrest, rfl⟩ := Value.listOfJson?_cons.mp hvalues
    rw [List.forall_mem_cons] at h
    rw [contentItems, h.1 value hvalue, ih h.2 hrest, Value.listDepth]
    exact ifWithin_bind ..

theorem contentEntries_ofJson {room : Nat} {members : List (String × Json)} {entries : Entries}
    (h : ∀ member ∈ members, WritesBack room member.2)
    (hentries : Entries.ofJson? members = some entries) :
    contentEntries room entries = ifWithin (Entries.depth entries) room members := by
  induction members generalizing entries with
  | nil =>
    obtain rfl := Option.some.inj hentries
    rfl
  | cons member members ih =>
    obtain ⟨key, document⟩ := member
    obtain ⟨value, rest, hvalue, hrest, rfl⟩ := Entries.ofJson?_cons.mp hentries
    rw [List.forall_mem_cons] at h
    rw [contentEntries, h.1 value hvalue, ih h.2 hrest, Entries.depth]
    exact ifWithin_bind _ _ _ _ _ fun document rest => (key, document) :: rest

/-- A plain value is written as its document, if there is room for its levels. -/
theorem writesBack {document : Json} (h : Readable style document) (room : Nat) :
    WritesBack room document := by
  induction document using Json.induct generalizing room with
  | raw contents => exact fun value hvalue => by cases hvalue
  | float x =>
    rintro _ ⟨⟩
    cases room with
    | zero => rfl
    | succ room =>
      rw [contentWithin, floatContent, if_pos h.1]
      rfl
  | list items ih =>
    intro value hvalue
    obtain ⟨values, hvalues, rfl⟩ := Value.ofJson?_list.mp hvalue
    have hitems := Json.readableItems_iff.mp h
    cases room with
    | zero => rfl
    | succ room =>
      rw [contentWithin,
        contentItems_ofJson (fun item hmem => ih item hmem (hitems item hmem) room) hvalues]
      exact ifWithin_map ..
  | object members ih =>
    intro value hvalue
    obtain ⟨entries, hentries, rfl⟩ := Value.ofJson?_object.mp hvalue
    have hmembers := Json.readableMembers_iff.mp h.2
    cases room with
    | zero => rfl
    | succ room =>
      rw [contentWithin, contentEntries_ofJson
        (fun member hmem => ih member hmem (hmembers member hmem) room) hentries]
      exact ifWithin_map ..
  | _ =>
    rintro _ ⟨⟩
    cases room <;> rfl

theorem rowContent_of_rowOf {members : List (String × Json)} {row : Entries}
    (h : RowOf members row) : rowContent row =
      ifWithin (Entries.depth row) maxDepth (.object members) := by
  obtain ⟨hreadable, hrow⟩ := h
  have hmembers := Json.readableMembers_iff.mp hreadable.2
  rw [rowContent, contentEntries_ofJson
    (fun member hmem => writesBack (hmembers member hmem) maxDepth) hrow, ifWithin_map]
  simp only [ifWithin, Nat.add_le_add_iff_right]

/-- Plain rows are written as their objects, if none of them is nested too deep. -/
theorem rowsDocument_of_rowOf {objects : List (List (String × Json))} {rows : List Entries}
    (h : List.Forall₂ RowOf objects rows) : rowsDocument rows =
      if ∀ row ∈ rows, Entries.depth row ≤ maxDepth
      then .ok (.list (objects.map .object)) else .error .tooDeep := by
  have hrows : rows.mapM rowContent =
      if ∀ row ∈ rows, Entries.depth row ≤ maxDepth
      then .ok (objects.map .object) else .error Unwritable.tooDeep := by
    induction h with
    | nil => simp [pure, Except.pure]
    | @cons members row objects rows hrow _ ih =>
      rw [List.mapM_cons, rowContent_of_rowOf hrow, ih, ifWithin]
      simp only [List.forall_mem_cons]
      -- Only plain rows are written, so there is no other failure that could come first.
      by_cases hfirst : Entries.depth row ≤ maxDepth
      · by_cases hrest : ∀ row ∈ rows, Entries.depth row ≤ maxDepth
        · rw [if_pos hfirst, if_pos hrest, if_pos (And.intro hfirst hrest)]
          rfl
        · rw [if_pos hfirst, if_neg hrest, if_neg (not_and_of_not_right _ hrest)]
          rfl
      · rw [if_neg hfirst, if_neg (not_and_of_not_left _ hfirst)]
        rfl
  rw [rowsDocument, hrows]
  split <;> rfl

theorem ofJson?_objects {objects : List (List (String × Json))} {rows : List Entries}
    (h : List.Forall₂ RowOf objects rows) :
    Value.ofJson? (.list (objects.map .object)) = some (.list (rows.map .object)) := by
  refine Value.ofJson?_list.mpr ⟨_, ?_, rfl⟩
  induction h with
  | nil => rfl
  | cons hrow _ ih =>
    exact Value.listOfJson?_cons.mpr ⟨_, _, Value.ofJson?_object.mpr ⟨_, hrow.2, rfl⟩, ih, rfl⟩

theorem readable_of_rowOf {objects : List (List (String × Json))} {rows : List Entries}
    (h : List.Forall₂ RowOf objects rows) : Readable style (.list (objects.map .object)) := by
  refine Json.readableItems_iff.mpr (List.forall_mem_map.mpr ?_)
  induction h with
  | nil => simp
  | cons hrow _ ih => exact List.forall_mem_cons.mpr ⟨hrow.1, ih⟩

/-- A document and the value that it stands for have the same integers. -/
theorem integersFit_eq_fits {document : Json} {value : Value}
    (h : Value.ofJson? document = some value) : document.integersFit = value.fits := by
  induction document using Json.induct generalizing value with
  | raw contents => cases h
  | list items ih =>
    obtain ⟨values, hvalues, rfl⟩ := Value.ofJson?_list.mp h
    rw [Json.integersFit, Value.fits]
    clear h
    induction items generalizing values with
    | nil =>
      obtain rfl := Option.some.inj hvalues
      rfl
    | cons item items ihItems =>
      obtain ⟨value, rest, hvalue, hrest, rfl⟩ := Value.listOfJson?_cons.mp hvalues
      rw [List.forall_mem_cons] at ih
      rw [Json.itemsFit, allFit, ih.1 hvalue,
        ihItems ih.2 rest hrest]
  | object members ih =>
    obtain ⟨entries, hentries, rfl⟩ := Value.ofJson?_object.mp h
    rw [Json.integersFit, Value.fits]
    clear h
    induction members generalizing entries with
    | nil =>
      obtain rfl := Option.some.inj hentries
      rfl
    | cons member members ihMembers =>
      obtain ⟨key, document⟩ := member
      obtain ⟨value, rest, hvalue, hrest, rfl⟩ := Entries.ofJson?_cons.mp hentries
      rw [List.forall_mem_cons] at ih
      rw [Json.membersFit, entriesFit, ih.1 hvalue,
        ihMembers ih.2 rest hrest]
  | _ =>
    cases h
    rfl

theorem itemsFit_of_rowOf {objects : List (List (String × Json))} {rows : List Entries}
    (h : List.Forall₂ RowOf objects rows) :
    Json.itemsFit (objects.map .object) = rows.all entriesFit := by
  induction h with
  | nil => rfl
  | @cons members row objects rows hrow _ ih =>
    have hfirst := integersFit_eq_fits (Value.ofJson?_object.mpr ⟨row, hrow.2, rfl⟩)
    rw [List.map_cons, Json.itemsFit, hfirst, ih]
    rfl

end Payload

end QueryGate
