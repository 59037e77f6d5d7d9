import QueryGate.Proofs.Json.RoundTrip

/-!
# Documents in printable ASCII

A style that escapes every character beyond printable ASCII, and puts only printable ASCII around
the parts of a document, writes every document in printable ASCII: no text inside a document can
start a new line or bring in a control character.
-/

namespace QueryGate.Json

open QueryGate.Number QueryGate.Text

/-- The character is a blank or a visible character of ASCII. -/
def PrintableAscii (c : Char) : Prop := 0x20 ≤ c.toNat ∧ c.toNat ≤ 0x7e

instance : DecidablePred PrintableAscii := fun _ => inferInstanceAs (Decidable (_ ∧ _))

/-- The text holds printable ASCII only. -/
def AsciiText (cs : List Char) : Prop := ∀ c ∈ cs, PrintableAscii c

instance : DecidablePred AsciiText := fun cs =>
  decidable_of_iff (cs.all (fun c => decide (PrintableAscii c)) = true) (by simp [AsciiText])

@[simp] theorem asciiText_append {cs more : List Char} :
    AsciiText (cs ++ more) ↔ AsciiText cs ∧ AsciiText more := List.forall_mem_append

@[simp] theorem asciiText_cons {c : Char} {cs : List Char} :
    AsciiText (c :: cs) ↔ PrintableAscii c ∧ AsciiText cs := List.forall_mem_cons

theorem asciiText_nil : AsciiText [] := fun _ hc => nomatch hc

/-- Whatever is not in printable ASCII is escaped, and the texts of the style are in it. -/
structure Style.Ascii (style : Style) : Prop where
  escapes : ∀ c : Char, 0x7e < c.toNat → style.escapes c = true
  nan : AsciiText style.float.nan.toList
  infinity : AsciiText style.float.infinity.toList
  opening : ∀ depth, AsciiText (style.opening depth)
  between : ∀ depth, AsciiText (style.between depth)
  closing : ∀ depth, AsciiText (style.closing depth)

theorem asciiText_unitEscape {n : Nat} (h : n < 0x10000) : AsciiText (unitEscape n) := by
  have hdigit : ∀ d < 16, PrintableAscii (Nat.digitChar d) := by decide
  rw [unitEscape, hexDigits_four h]
  simp only [asciiText_cons]
  exact ⟨by decide, by decide, hdigit _ (by omega), hdigit _ (by omega), hdigit _ (by omega),
    hdigit _ (by omega), asciiText_nil⟩

theorem asciiText_numericEscape (c : Char) : AsciiText (numericEscape c) := by
  have hbound := (toNat_bounds c).1
  by_cases hunit : c.toNat < 0x10000
  · rw [numericEscape, if_pos hunit]
    exact asciiText_unitEscape hunit
  · rw [numericEscape_of_pair hunit, asciiText_append]
    exact ⟨asciiText_unitEscape (by omega), asciiText_unitEscape (by omega)⟩

theorem asciiText_escapeChar {escapes : Char → Bool}
    (h : ∀ c : Char, 0x7e < c.toNat → escapes c = true) (c : Char) :
    AsciiText (escapeChar escapes c) := by
  rw [escapeChar]
  split
  · next letter hletter =>
    have hletters : AsciiText (shortEscapes.map Prod.snd) := by decide
    obtain ⟨front, back, hpair, -⟩ := List.lookup_eq_some_iff.mp hletter
    have hprintable : PrintableAscii letter := hletters letter (by rw [hpair]; simp)
    exact asciiText_cons.mpr ⟨by decide, asciiText_cons.mpr ⟨hprintable, asciiText_nil⟩⟩
  · split
    · exact asciiText_numericEscape c
    · next hplain =>
      rw [Bool.or_eq_true, decide_eq_true_eq, not_or] at hplain
      have hbelow : ¬ 0x7e < c.toNat := fun habove => hplain.2 (h c habove)
      exact asciiText_cons.mpr ⟨⟨by omega, by omega⟩, asciiText_nil⟩

theorem asciiText_escapeUnit {escapes : Char → Bool}
    (h : ∀ c : Char, 0x7e < c.toNat → escapes c = true) (unit : RawUnit) :
    AsciiText (escapeUnit escapes unit) := by
  cases unit with
  | char c => exact asciiText_escapeChar h c
  | byte excess =>
    have hbound := excess.isLt
    have hunit : RawUnit.surrogate excess < 0x10000 := by rw [RawUnit.surrogate]; omega
    exact asciiText_unitEscape hunit

theorem asciiText_quotedRaw {escapes : Char → Bool}
    (h : ∀ c : Char, 0x7e < c.toNat → escapes c = true) (raw : RawText) :
    AsciiText (quotedRaw escapes raw) := by
  have hinside : AsciiText (raw.units.flatMap (escapeUnit escapes)) := by
    intro c hc
    obtain ⟨unit, -, hc⟩ := List.mem_flatMap.mp hc
    exact asciiText_escapeUnit h unit c hc
  rw [quotedRaw, asciiText_cons, asciiText_append]
  exact ⟨by decide, hinside, by decide⟩

theorem asciiText_quoted {escapes : Char → Bool}
    (h : ∀ c : Char, 0x7e < c.toNat → escapes c = true) (s : String) :
    AsciiText (quoted escapes s) := by
  rw [quoted_eq_quotedRaw]
  exact asciiText_quotedRaw h _

theorem asciiText_of_numberText {cs : List Char} (h : NumberText cs) : AsciiText cs := by
  intro c hc
  have hchar := h c hc
  simp only [isNumberChar, Bool.or_eq_true, beq_iff_eq] at hchar
  rcases hchar with ((((hdigit | rfl) | rfl) | rfl) | rfl) | rfl
  · have hbounds := bounds_of_isDigit hdigit
    exact ⟨by omega, by omega⟩
  all_goals decide

section

variable {style : Style}

theorem Style.printItems_eq_map (style : Style) (depth : Nat) (items : List Json) :
    style.printItems depth items = items.map (style.print depth) := by
  induction items with
  | nil => rfl
  | cons item items ih => rw [Style.printItems, ih, List.map_cons]

theorem Style.printMembers_eq_map (style : Style) (depth : Nat) (members : List (String × Json)) :
    style.printMembers depth members = members.map fun (key, value) =>
      quoted style.escapes key ++ [':', ' '] ++ style.print depth value := by
  induction members with
  | nil => rfl
  | cons member members ih => rw [Style.printMembers, ih, List.map_cons]

theorem asciiText_bracketed (h : style.Ascii) (depth : Nat) {first last : Char}
    (hfirst : PrintableAscii first) (hlast : PrintableAscii last) {parts : List (List Char)}
    (hparts : ∀ part ∈ parts, AsciiText part) :
    AsciiText (style.bracketed depth first last parts) := by
  have hend : AsciiText [last] := asciiText_cons.mpr ⟨hlast, asciiText_nil⟩
  cases parts with
  | nil => exact asciiText_cons.mpr ⟨hfirst, hend⟩
  | cons part parts =>
    obtain ⟨hpart, hparts⟩ := List.forall_mem_cons.mp hparts
    have hrest : AsciiText (parts.flatMap (style.between depth ++ ·)) := by
      intro c hc
      obtain ⟨next, hnext, hc⟩ := List.mem_flatMap.mp hc
      exact asciiText_append.mpr ⟨h.between depth, hparts next hnext⟩ c hc
    rw [style.bracketed_cons, Style.joined]
    simp only [asciiText_cons, asciiText_append]
    exact ⟨hfirst, h.opening depth, ⟨hpart, hrest⟩, h.closing depth, hlast, asciiText_nil⟩

theorem asciiText_write (h : style.Ascii) (x : Double) :
    AsciiText (style.float.write x).toList := by
  cases x with
  | nan => exact h.nan
  | infinity negative =>
    have hsign : AsciiText (if negative then "-" else "").toList := by
      cases negative <;> decide
    rw [Layout.write, String.toList_append, asciiText_append]
    exact ⟨hsign, h.infinity⟩
  | finite => exact asciiText_of_numberText (numberText_write style.float rfl)

/-- Every document is written in printable ASCII. -/
theorem asciiText_print (h : style.Ascii) (document : Json) (depth : Nat) :
    AsciiText (style.print depth document) := by
  induction document using Json.induct generalizing depth with
  | null => rw [Style.print]; decide
  | bool b => cases b <;> · rw [Style.print]; decide
  | int n => exact asciiText_of_numberText (numberText_toString n)
  | float x => exact asciiText_write h x
  | text s => exact asciiText_quoted h.escapes s
  | raw contents => exact asciiText_quotedRaw h.escapes contents
  | list items ih =>
    rw [Style.print, style.printItems_eq_map]
    refine asciiText_bracketed h depth (by decide) (by decide) fun part hpart => ?_
    obtain ⟨item, hitem, rfl⟩ := List.mem_map.mp hpart
    exact ih item hitem (depth + 1)
  | object members ih =>
    rw [Style.print, style.printMembers_eq_map]
    refine asciiText_bracketed h depth (by decide) (by decide) fun part hpart => ?_
    obtain ⟨⟨key, value⟩, hmember, rfl⟩ := List.mem_map.mp hpart
    simp only [asciiText_append]
    exact ⟨⟨asciiText_quoted h.escapes key, by decide⟩, ih _ hmember (depth + 1)⟩

end

end QueryGate.Json
