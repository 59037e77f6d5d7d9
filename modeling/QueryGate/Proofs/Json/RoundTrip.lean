import QueryGate.Proofs.Json.Scalars

/-!
# Documents are read back

Under every style that puts nothing but white space and commas around the parts of a document, the
text of a document is read as that document, if its floats are read back and no key stands twice in
an object; what follows the text is left as it is. If one of its integers is too long, the text is
not read at all.
-/

namespace QueryGate.Json

open QueryGate.Number QueryGate.Text

def Spaces (cs : List Char) : Prop := ∀ c ∈ cs, isJsonSpace c = true

theorem spaces_nil : Spaces [] := by simp [Spaces]

theorem skipSpace_append {spaces : List Char} (h : Spaces spaces) (cs : List Char) :
    skipSpace (spaces ++ cs) = skipSpace cs := List.dropWhile_append_of_pos h

theorem skipSpace_cons {c : Char} (h : isJsonSpace c = false) (cs : List Char) :
    skipSpace (c :: cs) = c :: cs := List.dropWhile_cons_of_neg (by simp [h])

/-- The text does not go on with a number. -/
def EndsNumber (cs : List Char) : Prop := ∀ c ∈ cs.head?, isNumberChar c = false

theorem endsNumber_cons {c : Char} (h : isNumberChar c = false) {rest : List Char} :
    EndsNumber (c :: rest) := by
  simpa [EndsNumber] using h

theorem endsNumber_spaces {spaces : List Char} (h : Spaces spaces) {c : Char}
    (hc : isNumberChar c = false) (rest : List Char) : EndsNumber (spaces ++ c :: rest) := by
  cases spaces with
  | nil => exact endsNumber_cons hc
  | cons space spaces =>
    have hspace := h space List.mem_cons_self
    simp only [isJsonSpace, Bool.or_eq_true, beq_iff_eq] at hspace
    rcases hspace with ((rfl | rfl) | rfl) | rfl <;> exact endsNumber_cons rfl

/-- Parts are separated by commas, and white space stands where a reader passes over it. -/
structure Style.Regular (style : Style) : Prop where
  opening : ∀ depth, Spaces (style.opening depth)
  between : ∀ depth, ∃ spaces, style.between depth = ',' :: spaces ∧ Spaces spaces
  closing : ∀ depth, Spaces (style.closing depth)

theorem readValue_atom {c : Char} (hspace : isJsonSpace c = false)
    (hc : c ≠ '"' ∧ c ≠ '[' ∧ c ≠ '\x7b') {spaces : List Char} (hspaces : Spaces spaces)
    (fuel : Nat) (cs : List Char) :
    readValue (fuel + 1) (spaces ++ c :: cs) = readAtom (c :: cs) := by
  rw [readValue, skipSpace_append hspaces, skipSpace_cons hspace]
  split
  · next heq => exact absurd (List.cons.inj heq).1 hc.1
  · next heq => exact absurd (List.cons.inj heq).1 hc.2.1
  · next heq => exact absurd (List.cons.inj heq).1 hc.2.2
  · rfl

theorem isJsonSpace_of_isNumberChar {c : Char} (h : isNumberChar c = true) :
    isJsonSpace c = false := by
  rw [Bool.eq_false_iff]
  intro hspace
  simp only [isJsonSpace, Bool.or_eq_true, beq_iff_eq] at hspace
  rcases hspace with ((rfl | rfl) | rfl) | rfl <;> exact absurd h (by decide)

/-- The text of a number is read up to its end. -/
theorem readValue_number {text : List Char} (htext : NumberText text) (hne : text ≠ [])
    {spaces rest : List Char} (hspaces : Spaces spaces) (hrest : EndsNumber rest) (fuel : Nat) :
    readValue (fuel + 1) (spaces ++ (text ++ rest)) = (ofNumberText? text).map (·, rest) := by
  have htake : (text ++ rest).takeWhile isNumberChar = text := by
    rw [List.takeWhile_append_of_pos htext]
    cases rest with
    | nil => simp
    | cons c rest => simp [hrest c rfl]
  have hdrop : (text ++ rest).dropWhile isNumberChar = rest := by
    rw [List.dropWhile_append_of_pos htext]
    cases rest with
    | nil => rfl
    | cons c rest => exact List.dropWhile_cons_of_neg (by simp [hrest c rfl])
  cases text with
  | nil => exact absurd rfl hne
  | cons c text =>
    have hc := htext c List.mem_cons_self
    have hother (d : Char) (hd : isNumberChar d = false) : c ≠ d := by
      rintro rfl
      exact Bool.noConfusion (hc.symm.trans hd)
    rw [List.cons_append, readValue_atom (isJsonSpace_of_isNumberChar hc)
      ⟨hother _ rfl, hother _ rfl, hother _ rfl⟩ hspaces, readAtom]
    · rw [← List.cons_append, htake, hdrop]
    · exact fun _ heq => hother 'n' rfl (List.cons.inj heq).1
    · exact fun _ heq => hother 't' rfl (List.cons.inj heq).1
    · exact fun _ heq => hother 'f' rfl (List.cons.inj heq).1

/-- The text of a number stands for what the number is. -/
theorem ofText_eq_ofNumberText? {text : String} (htext : NumberText text.toList) :
    ofText text = ofNumberText? text.toList := by
  rw [ofText]
  generalize text.toList = cs at htext
  cases cs with
  | nil => rfl
  | cons c cs =>
    have hread : readValue (2 * (c :: cs).length + 2) ([] ++ (c :: cs ++ [])) =
        (ofNumberText? (c :: cs)).map (·, []) :=
      readValue_number htext (List.cons_ne_nil c cs) spaces_nil (by simp [EndsNumber]) _
    rw [List.nil_append, List.append_nil] at hread
    rw [hread]
    cases ofNumberText? (c :: cs) <;> rfl

theorem length_pos_escapeUnit (escapes : Char → Bool) (unit : RawUnit) :
    0 < (escapeUnit escapes unit).length := by
  cases unit with
  | byte excess => exact Nat.succ_pos _
  | char c =>
    rw [escapeUnit, escapeChar]
    split
    · exact Nat.succ_pos _
    · split
      · obtain ⟨escape, hescape, -⟩ := readEscape_numericEscape c []
        rw [List.append_nil] at hescape
        rw [hescape]
        exact Nat.succ_pos _
      · exact Nat.succ_pos _

theorem length_le_flatMap_escapeUnit (escapes : Char → Bool) (units : List RawUnit) :
    units.length ≤ (units.flatMap (escapeUnit escapes)).length := by
  induction units with
  | nil => exact Nat.le_refl 0
  | cons unit units ih =>
    have hunit := length_pos_escapeUnit escapes unit
    rw [List.flatMap_cons, List.length_append, List.length_cons]
    omega

theorem readString_quoted (escapes : Char → Bool) (raw : RawText) (rest : List Char) :
    let text := raw.units.flatMap (escapeUnit escapes) ++ '"' :: rest
    readString (text.length + 1) text = some (raw.units, rest) := by
  apply readString_escaped
  have hlength := length_le_flatMap_escapeUnit escapes raw.units
  rw [List.length_append]
  omega

theorem quotedRaw_append (escapes : Char → Bool) (raw : RawText) (rest : List Char) :
    quotedRaw escapes raw ++ rest =
      '"' :: (raw.units.flatMap (escapeUnit escapes) ++ '"' :: rest) := by
  simp [quotedRaw]

theorem quoted_append (escapes : Char → Bool) (s : String) (rest : List Char) :
    quoted escapes s ++ rest =
      '"' :: ((RawText.ofString s).units.flatMap (escapeUnit escapes) ++ '"' :: rest) := by
  rw [quoted_eq_quotedRaw, quotedRaw_append]

theorem readValue_quotedRaw (escapes : Char → Bool) (raw : RawText) {spaces : List Char}
    (hspaces : Spaces spaces) (rest : List Char) (fuel : Nat) :
    readValue (fuel + 1) (spaces ++ (quotedRaw escapes raw ++ rest)) =
      some (ofRaw raw, rest) := by
  rw [quotedRaw_append, readValue, skipSpace_append hspaces, skipSpace_cons rfl]
  simp only [readString_quoted, Option.bind_eq_bind, Option.bind_some, pure]

theorem put_of_new {members : List (String × Json)} {key : String}
    (h : key ∉ members.map Prod.fst) (value : Json) :
    put members key value = members ++ [(key, value)] := by
  induction members with
  | nil => rfl
  | cons member members ih =>
    obtain ⟨k, v⟩ := member
    simp only [List.map_cons, List.mem_cons, not_or] at h
    rw [put, if_neg (Ne.symm h.1), ih h.2]
    rfl

/-- Members with keys of their own are put one after the other. -/
theorem foldl_put {members : List (String × Json)} (h : (members.map Prod.fst).Nodup) :
    members.foldl (fun all (key, value) => put all key value) [] = members := by
  suffices hfront : ∀ front : List (String × Json), ((front ++ members).map Prod.fst).Nodup →
      members.foldl (fun all (key, value) => put all key value) front = front ++ members from
    hfront [] h
  clear h
  induction members with
  | nil => simp
  | cons member members ih =>
    intro front hfront
    obtain ⟨key, value⟩ := member
    have hnew : key ∉ front.map Prod.fst := by
      rw [List.map_append, List.map_cons, List.nodup_append] at hfront
      exact fun hmem => hfront.2.2 key hmem key List.mem_cons_self rfl
    rw [List.foldl_cons]
    dsimp only
    rw [put_of_new hnew, ih]
    · simp
    · simpa using hfront

/-- What holds of the leaves, and of lists and objects if it holds of their parts, holds of every
document. -/
@[elab_as_elim]
theorem induct {P : Json → Prop} (null : P .null) (bool : ∀ b, P (.bool b)) (int : ∀ n, P (.int n))
    (float : ∀ x, P (.float x)) (text : ∀ s, P (.text s)) (raw : ∀ contents, P (.raw contents))
    (list : ∀ items, (∀ item ∈ items, P item) → P (.list items))
    (object : ∀ members, (∀ member ∈ members, P member.2) → P (.object members)) :
    ∀ document, P document
  | .null => null
  | .bool b => bool b
  | .int n => int n
  | .float x => float x
  | .text s => text s
  | .raw contents => raw contents
  | .list items => list items fun item _ => induct null bool int float text raw list object item
  | .object members => object members fun member _ =>
      induct null bool int float text raw list object member.2
termination_by document => sizeOf document
decreasing_by
  · have hitem := List.sizeOf_lt_of_mem ‹item ∈ items›
    simp only [Json.list.sizeOf_spec]
    omega
  · have hmember := List.sizeOf_lt_of_mem ‹member ∈ members›
    cases member
    simp only [Json.object.sizeOf_spec, Prod.mk.sizeOf_spec] at hmember ⊢
    omega

mutual

/-- The floats of the document are finite and read back in the layout of the style, texts without
stray bytes are told apart from the others, and no key stands twice in an object. -/
def Readable (style : Style) : Json → Prop
  | .float x => x.isFinite = true ∧ ofText (style.float.write x) = some (.float x)
  | .raw contents => contents.text? = none
  | .list items => ReadableItems style items
  | .object members => (members.map Prod.fst).Nodup ∧ ReadableMembers style members
  | _ => True

def ReadableItems (style : Style) : List Json → Prop
  | [] => True
  | item :: items => Readable style item ∧ ReadableItems style items

def ReadableMembers (style : Style) : List (String × Json) → Prop
  | [] => True
  | (_, value) :: members => Readable style value ∧ ReadableMembers style members

end

mutual

/-- No integer of the document has too many digits to be read. -/
def integersFit : Json → Bool
  | .int n => fits n
  | .list items => itemsFit items
  | .object members => membersFit members
  | _ => true

def itemsFit : List Json → Bool
  | [] => true
  | item :: items => item.integersFit && itemsFit items

def membersFit : List (String × Json) → Bool
  | [] => true
  | (_, value) :: members => value.integersFit && membersFit members

end

/-- The parts of a list or of an object, one after the other. -/
def Style.joined (style : Style) (depth : Nat) (part : List Char) (parts : List (List Char)) :
    List Char :=
  part ++ parts.flatMap (style.between depth ++ ·)

theorem Style.joined_cons (style : Style) (depth : Nat) (part next : List Char)
    (parts : List (List Char)) : style.joined depth part (next :: parts) =
      part ++ (style.between depth ++ style.joined depth next parts) := by
  simp [joined]

theorem Style.bracketed_cons (style : Style) (depth : Nat) (first last : Char)
    (part : List Char) (parts : List (List Char)) :
    style.bracketed depth first last (part :: parts) = first :: (style.opening depth ++
      (style.joined depth part parts ++ (style.closing depth ++ [last]))) := by
  simp [bracketed, joined]

variable {style : Style}

theorem toString_ne_nil (n : Int) : (toString n).toList ≠ [] := by
  rw [toList_toString]
  exact List.append_ne_nil_of_right_ne_nil _ Nat.toDigits_ne_nil

theorem readable_float {x : Double} (h : Readable style (.float x)) :
    NumberText (style.float.write x).toList ∧ (style.float.write x).toList ≠ [] ∧
      ofNumberText? (style.float.write x).toList = some (.float x) := by
  have htext := numberText_write style.float h.1
  have hnumber := (ofText_eq_ofNumberText? htext).symm.trans h.2
  refine ⟨htext, fun heq => ?_, hnumber⟩
  rw [heq] at hnumber
  cases hnumber

/-- A document starts with a character that is passed over nowhere and closes no list. -/
theorem print_eq_cons {document : Json} (h : Readable style document) (depth : Nat) :
    ∃ c cs, style.print depth document = c :: cs ∧ isJsonSpace c = false ∧ c ≠ ']' := by
  have hnumber {text : List Char} (htext : NumberText text) (hne : text ≠ []) :
      ∃ c cs, text = c :: cs ∧ isJsonSpace c = false ∧ c ≠ ']' := by
    obtain ⟨c, cs, rfl⟩ := List.exists_cons_of_ne_nil hne
    have hc := htext c List.mem_cons_self
    refine ⟨c, cs, rfl, isJsonSpace_of_isNumberChar hc, ?_⟩
    rintro rfl
    cases hc
  cases document with
  | null => exact ⟨_, _, rfl, rfl, by decide⟩
  | bool b => cases b <;> exact ⟨_, _, rfl, rfl, by decide⟩
  | int n => exact hnumber (numberText_toString n) (toString_ne_nil n)
  | float x =>
    obtain ⟨htext, hne, -⟩ := readable_float h
    exact hnumber htext hne
  | text s => exact ⟨_, _, rfl, rfl, by decide⟩
  | raw contents => exact ⟨_, _, rfl, rfl, by decide⟩
  | list items =>
    rw [Style.print]
    cases style.printItems (depth + 1) items with
    | nil => exact ⟨_, _, rfl, rfl, by decide⟩
    | cons part parts => exact ⟨_, _, style.bracketed_cons .., rfl, by decide⟩
  | object members =>
    rw [Style.print]
    cases style.printMembers (depth + 1) members with
    | nil => exact ⟨_, _, rfl, rfl, by decide⟩
    | cons part parts => exact ⟨_, _, style.bracketed_cons .., rfl, by decide⟩

/-- What is read under a condition. -/
def whenFits {α : Type} (fits : Bool) (a : α) : Option α := if fits then some a else none

theorem readValue_list {fuel : Nat} {spaces text body rest : List Char} {items : List Json}
    {fits : Bool} (hspaces : Spaces spaces) (htext : skipSpace text = body)
    (hbody : body.head? ≠ some ']')
    (hitems : readItems fuel body = whenFits fits (items, rest)) :
    readValue (fuel + 1) (spaces ++ '[' :: text) = whenFits fits (.list items, rest) := by
  rw [readValue, skipSpace_append hspaces, skipSpace_cons rfl]
  simp only [htext]
  split
  · next heq => exact absurd rfl hbody
  · rw [hitems]
    cases fits <;> rfl

theorem readValue_object {fuel : Nat} {spaces text cs rest : List Char}
    {members : List (String × Json)} {fits : Bool} (hspaces : Spaces spaces)
    (hkeys : (members.map Prod.fst).Nodup) (htext : skipSpace text = '"' :: cs)
    (hmembers : readMembers fuel ('"' :: cs) = whenFits fits (members, rest)) :
    readValue (fuel + 1) (spaces ++ '\x7b' :: text) = whenFits fits (.object members, rest) := by
  have hput := foldl_put hkeys
  rw [readValue, skipSpace_append hspaces, skipSpace_cons rfl]
  simp only [htext]
  split
  · next heq => cases heq
  · rw [hmembers]
    cases fits with
    | false => rfl
    | true => exact congrArg (fun all => some (Json.object all, rest)) hput

section

variable {fuel : Nat} {spaces cs behind more rest text : List Char} {key : String}
  {value item : Json} {items : List Json} {members : List (String × Json)} {fits others : Bool}

theorem readItems_last (hitem : readValue fuel cs = whenFits fits (item, behind))
    (hbehind : skipSpace behind = ']' :: rest) :
    readItems (fuel + 1) cs = whenFits fits ([item], rest) := by
  rw [readItems, hitem]
  cases fits with
  | false => rfl
  | true => simp only [whenFits, if_true, Option.bind_eq_bind, Option.bind_some, hbehind, pure]

theorem readItems_more (hitem : readValue fuel cs = whenFits fits (item, behind))
    (hbehind : skipSpace behind = ',' :: more)
    (hitems : readItems fuel more = whenFits others (items, rest)) :
    readItems (fuel + 1) cs = whenFits (fits && others) (item :: items, rest) := by
  rw [readItems, hitem]
  cases fits with
  | false => rfl
  | true =>
    simp only [whenFits, if_true, Option.bind_eq_bind, Option.bind_some, hbehind, hitems]
    cases others <;> rfl

theorem text?_units (key : String) : RawText.text? ⟨(RawText.ofString key).units⟩ = some key :=
  RawText.text?_ofString key

theorem dropWord?_colon (text : List Char) :
    dropWord? [':'] (skipSpace (':' :: text)) = some text := rfl

theorem readMembers_last (hspaces : Spaces spaces) (escapes : Char → Bool)
    (hvalue : readValue fuel text = whenFits fits (value, behind))
    (hbehind : skipSpace behind = '\x7d' :: rest) :
    readMembers (fuel + 1) (spaces ++ (quoted escapes key ++ ':' :: text)) =
      whenFits fits ([(key, value)], rest) := by
  rw [quoted_append, readMembers, skipSpace_append hspaces, skipSpace_cons rfl]
  simp only [readString_quoted, text?_units, dropWord?_colon, hvalue, Option.bind_eq_bind,
    Option.bind_some]
  cases fits with
  | false => rfl
  | true => simp only [whenFits, if_true, Option.bind_some, hbehind, pure]

theorem readMembers_more (hspaces : Spaces spaces) (escapes : Char → Bool)
    (hvalue : readValue fuel text = whenFits fits (value, behind))
    (hbehind : skipSpace behind = ',' :: more)
    (hmembers : readMembers fuel more = whenFits others (members, rest)) :
    readMembers (fuel + 1) (spaces ++ (quoted escapes key ++ ':' :: text)) =
      whenFits (fits && others) ((key, value) :: members, rest) := by
  rw [quoted_append, readMembers, skipSpace_append hspaces, skipSpace_cons rfl]
  simp only [readString_quoted, text?_units, dropWord?_colon, hvalue, Option.bind_eq_bind,
    Option.bind_some]
  cases fits with
  | false => rfl
  | true =>
    simp only [whenFits, if_true, Option.bind_some, hbehind, hmembers]
    cases others <;> rfl

end

/-- At every depth the text of the document is read as the document, and what follows is left;
nothing is read if an integer is too long. -/
def ReadBack (style : Style) (document : Json) : Prop :=
  ∀ (depth fuel : Nat) (spaces rest : List Char), Spaces spaces → EndsNumber rest →
    2 * (style.print depth document).length ≤ fuel + 1 →
    readValue (fuel + 1) (spaces ++ (style.print depth document ++ rest)) =
      whenFits document.integersFit (document, rest)

theorem readItems_print (hstyle : style.Regular) {item : Json} {items : List Json}
    (hitems : ∀ next ∈ item :: items, ReadBack style next) (depth level fuel : Nat)
    {spaces closing : List Char} (rest : List Char) (hspaces : Spaces spaces)
    (hclosing : Spaces closing)
    (hfuel : 2 * (style.joined level (style.print depth item)
      (style.printItems depth items)).length ≤ fuel + 1) :
    readItems (fuel + 2) (spaces ++
      (style.joined level (style.print depth item) (style.printItems depth items) ++
        (closing ++ ']' :: rest))) =
      whenFits (itemsFit (item :: items)) (item :: items, rest) := by
  have hitem := hitems item List.mem_cons_self
  induction items generalizing item fuel spaces with
  | nil =>
    simp only [Style.printItems, Style.joined, List.flatMap_nil, List.append_nil] at hfuel ⊢
    rw [itemsFit, itemsFit, Bool.and_true]
    refine readItems_last (hitem depth fuel spaces _ hspaces (endsNumber_spaces hclosing rfl rest)
      hfuel) ?_
    rw [skipSpace_append hclosing, skipSpace_cons rfl]
  | cons next items ih =>
    obtain ⟨blank, hbetween, hblank⟩ := hstyle.between level
    rw [Style.printItems, style.joined_cons, hbetween] at hfuel ⊢
    simp only [List.length_append, List.length_cons] at hfuel
    obtain ⟨fuel, rfl⟩ : ∃ f, fuel = f + 1 := ⟨fuel - 1, by omega⟩
    -- The comma ends the item, and the steps left behind it are those that the other items need.
    have hnext := fun other hmem => hitems other (List.mem_cons_of_mem item hmem)
    have hmore := ih hnext fuel hblank (by omega) (hnext next List.mem_cons_self)
    simp only [List.cons_append, List.append_assoc]
    exact readItems_more (hitem depth (fuel + 1) spaces _ hspaces (endsNumber_cons rfl) (by omega))
      (skipSpace_cons rfl _) hmore

theorem readMembers_print (hstyle : style.Regular) {key : String} {value : Json}
    {members : List (String × Json)}
    (hmembers : ∀ next ∈ (key, value) :: members, ReadBack style next.2) (depth level fuel : Nat)
    {spaces closing : List Char} (rest : List Char) (hspaces : Spaces spaces)
    (hclosing : Spaces closing)
    (hfuel : 2 * (style.joined level
      (quoted style.escapes key ++ [':', ' '] ++ style.print depth value)
      (style.printMembers depth members)).length ≤ fuel + 1) :
    readMembers (fuel + 2) (spaces ++ (style.joined level
        (quoted style.escapes key ++ [':', ' '] ++ style.print depth value)
        (style.printMembers depth members) ++ (closing ++ '\x7d' :: rest))) =
      whenFits (membersFit ((key, value) :: members)) ((key, value) :: members, rest) := by
  have hvalue : ReadBack style value := hmembers (key, value) List.mem_cons_self
  have hblank : Spaces [' '] := by simp [Spaces, isJsonSpace]
  induction members generalizing key value fuel spaces with
  | nil =>
    simp only [Style.printMembers, Style.joined, List.flatMap_nil, List.append_nil,
      List.length_append] at hfuel
    have hread := hvalue depth fuel [' '] _ hblank
      (endsNumber_spaces (c := '\x7d') hclosing rfl rest) (by omega)
    simp only [Style.printMembers, Style.joined, List.flatMap_nil, List.append_nil,
      List.append_assoc, List.cons_append, List.nil_append] at hread ⊢
    rw [membersFit, membersFit, Bool.and_true]
    refine readMembers_last hspaces style.escapes hread ?_
    rw [skipSpace_append hclosing, skipSpace_cons rfl]
  | cons next members ih =>
    obtain ⟨nextKey, next⟩ := next
    obtain ⟨blanks, hbetween, hblanks⟩ := hstyle.between level
    rw [Style.printMembers, style.joined_cons, hbetween] at hfuel ⊢
    simp only [List.length_append, List.length_cons] at hfuel
    obtain ⟨fuel, rfl⟩ : ∃ f, fuel = f + 1 := ⟨fuel - 1, by omega⟩
    have hnext := fun other hmem => hmembers other (List.mem_cons_of_mem (key, value) hmem)
    have hmore := ih hnext fuel hblanks (by omega) (hnext (nextKey, next) List.mem_cons_self)
    have hread := hvalue depth (fuel + 1) [' '] (',' :: (blanks ++ (style.joined level
      (quoted style.escapes nextKey ++ [':', ' '] ++ style.print depth next)
      (style.printMembers depth members) ++ (closing ++ '\x7d' :: rest)))) hblank
      (endsNumber_cons rfl) (by omega)
    simp only [List.cons_append, List.append_assoc, List.nil_append] at hread hmore ⊢
    exact readMembers_more hspaces style.escapes hread (skipSpace_cons rfl _) hmore

theorem readableItems_iff {items : List Json} :
    ReadableItems style items ↔ ∀ item ∈ items, Readable style item := by
  induction items with
  | nil => simp [ReadableItems]
  | cons item items ih => simp [ReadableItems, ih]

theorem readableMembers_iff {members : List (String × Json)} :
    ReadableMembers style members ↔ ∀ member ∈ members, Readable style member.2 := by
  induction members with
  | nil => simp [ReadableMembers]
  | cons member members ih => simp [ReadableMembers, ih]

/-- By induction on the document: what stands behind the text of a part, and how many steps are
left there, is arbitrary. -/
theorem readBack (hstyle : style.Regular) {document : Json} (h : Readable style document) :
    ReadBack style document := by
  induction document using induct with
  | null =>
    intro depth fuel spaces rest hspaces _ _
    exact readValue_atom rfl (by decide) hspaces fuel _
  | bool b =>
    intro depth fuel spaces rest hspaces _ _
    cases b <;> exact readValue_atom rfl (by decide) hspaces fuel _
  | int n =>
    intro depth fuel spaces rest hspaces hrest _
    rw [Style.print, readValue_number (numberText_toString n) (toString_ne_nil n) hspaces hrest,
      ofNumberText?_toString, integersFit]
    cases fits n <;> rfl
  | float x =>
    intro depth fuel spaces rest hspaces hrest _
    obtain ⟨htext, hne, hread⟩ := readable_float h
    rw [Style.print, readValue_number htext hne hspaces hrest, hread]
    rfl
  | text s =>
    intro depth fuel spaces rest hspaces _ _
    rw [Style.print, quoted_eq_quotedRaw, readValue_quotedRaw style.escapes _ hspaces,
      ofRaw_ofString]
    rfl
  | raw contents =>
    have hnone : contents.text? = none := h
    have hraw : ofRaw contents = .raw contents := by rw [ofRaw, hnone]
    intro depth fuel spaces rest hspaces _ _
    rw [Style.print, readValue_quotedRaw style.escapes _ hspaces, hraw]
    rfl
  | list items ih =>
    have hitems := readableItems_iff.mp h
    intro depth fuel spaces rest hspaces _ hfuel
    cases items with
    | nil =>
      rw [Style.print, Style.printItems, readValue, skipSpace_append hspaces]
      rfl
    | cons item items =>
      obtain ⟨c, cs, hprint, hspace, hc⟩ :=
        print_eq_cons (hitems item List.mem_cons_self) (depth + 1)
      rw [Style.print, Style.printItems, style.bracketed_cons] at hfuel ⊢
      simp only [List.length_cons, List.length_append] at hfuel
      obtain ⟨fuel, rfl⟩ : ∃ f, fuel = f + 2 := ⟨fuel - 2, by omega⟩
      have hread := readItems_print hstyle (fun next hmem => ih next hmem (hitems next hmem))
        (depth + 1) depth fuel rest spaces_nil (hstyle.closing depth) (by omega)
      obtain ⟨more, hjoined⟩ : ∃ more, style.joined depth (style.print (depth + 1) item)
          (style.printItems (depth + 1) items) = c :: more := ⟨_, by rw [Style.joined, hprint]; rfl⟩
      rw [hjoined] at hread ⊢
      simp only [List.cons_append, List.nil_append, List.append_assoc] at hread ⊢
      refine readValue_list hspaces ?_ (by simpa using hc) hread
      rw [skipSpace_append (hstyle.opening depth), skipSpace_cons hspace]
  | object members ih =>
    have hmembers := readableMembers_iff.mp h.2
    intro depth fuel spaces rest hspaces _ hfuel
    cases members with
    | nil =>
      rw [Style.print, Style.printMembers, readValue, skipSpace_append hspaces]
      rfl
    | cons member members =>
      obtain ⟨key, value⟩ := member
      rw [Style.print, Style.printMembers, style.bracketed_cons] at hfuel ⊢
      simp only [List.length_cons, List.length_append] at hfuel
      obtain ⟨fuel, rfl⟩ : ∃ f, fuel = f + 2 := ⟨fuel - 2, by omega⟩
      have hread := readMembers_print hstyle (fun next hmem => ih next hmem (hmembers next hmem))
        (depth + 1) depth fuel rest spaces_nil (hstyle.closing depth) (by omega)
      simp only [Style.joined, quoted_append, List.cons_append, List.nil_append,
        List.append_assoc] at hread ⊢
      refine readValue_object hspaces h.1 ?_ hread
      rw [skipSpace_append (hstyle.opening depth), skipSpace_cons rfl]

theorem ofText_text (hstyle : style.Regular) {document : Json} (h : Readable style document) :
    ofText (style.text document) = whenFits document.integersFit document := by
  have hread := readBack hstyle h 0 (2 * (style.print 0 document).length + 1) [] [] spaces_nil
    (by simp [EndsNumber]) (by omega)
  rw [List.nil_append, List.append_nil] at hread
  rw [ofText, Style.text, String.toList_ofList, hread]
  cases document.integersFit <;> rfl

end QueryGate.Json
