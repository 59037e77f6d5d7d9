import Mathlib.Data.List.DropRight
import QueryGate.Text.Character

/-!
# Trimming

A text is its trimmed form between two blank parts. So trimming keeps all characters that are not
blank, in their order, and blank characters at its end make no word of a text longer.
-/

namespace QueryGate.Text

/-- All characters of the text are blank. -/
def Blank (cs : List Char) : Prop := ∀ c ∈ cs, isBlank c = true

theorem blank_cons {c : Char} {cs : List Char} : Blank (c :: cs) ↔ isBlank c = true ∧ Blank cs := by
  simp [Blank]

theorem exists_blank_trim_blank (cs : List Char) :
    ∃ front back, cs = front ++ (trim cs ++ back) ∧ Blank front ∧ Blank back := by
  refine ⟨cs.takeWhile isBlank, (cs.dropWhile isBlank).rtakeWhile isBlank, ?_, ?_, ?_⟩
  · have hback : trim cs ++ (cs.dropWhile isBlank).rtakeWhile isBlank = cs.dropWhile isBlank :=
      List.rdropWhile_append_rtakeWhile
    rw [hback, List.takeWhile_append_dropWhile]
  · intro c hc
    exact List.mem_takeWhile_imp hc
  · intro c hc
    exact List.mem_rtakeWhile_imp hc

/-- Nothing is trimmed from a text with no blank character at either end. -/
theorem trim_eq_self {cs : List Char} (hfront : ∀ c ∈ cs.head?, isBlank c = false)
    (hback : ∀ c ∈ cs.getLast?, isBlank c = false) : trim cs = cs := by
  have hleft : cs.dropWhile isBlank = cs := by
    cases cs with
    | nil => rfl
    | cons c rest => rw [List.dropWhile_cons, hfront c rfl, if_neg Bool.false_ne_true]
  have hright : cs.rdropWhile isBlank = cs := by
    refine List.rdropWhile_eq_self_iff.mpr fun hne => ?_
    rw [hback _ (List.getLast?_eq_some_getLast hne)]
    exact Bool.false_ne_true
  calc trim cs = (cs.dropWhile isBlank).rdropWhile isBlank := rfl
    _ = cs := by rw [hleft, hright]

private theorem dropWhile_of_blank {cs : List Char} (h : Blank cs) : cs.dropWhile isBlank = [] :=
  List.dropWhile_eq_nil_iff.mpr h

/-- Blank characters behind a text are trimmed away. -/
theorem trim_append_blank (cs : List Char) {back : List Char} (h : Blank back) :
    trim (cs ++ back) = trim cs := by
  have hback : Blank back.reverse := fun c hc => h c (List.mem_reverse.mp hc)
  have hright (ds : List Char) : (ds ++ back).rdropWhile isBlank = ds.rdropWhile isBlank := by
    rw [List.rdropWhile, List.rdropWhile, List.reverse_append, List.dropWhile_append,
      dropWhile_of_blank hback]
    rfl
  have hleft : (cs ++ back).dropWhile isBlank =
      if (cs.dropWhile isBlank).isEmpty then [] else cs.dropWhile isBlank ++ back := by
    rw [List.dropWhile_append, dropWhile_of_blank h]
  calc trim (cs ++ back) = ((cs ++ back).dropWhile isBlank).rdropWhile isBlank := rfl
    _ = (cs.dropWhile isBlank).rdropWhile isBlank := by
      rw [hleft]
      cases hdropped : cs.dropWhile isBlank with
      | nil => rfl
      | cons c rest => exact hright (c :: rest)

/-- A text that has something in it, and no blank character at either end. -/
structure Trimmed (cs : List Char) : Prop where
  ne_nil : cs ≠ []
  front : cs.dropWhile isBlank = cs
  back : cs.rdropWhile isBlank = cs

/-- What trimming leaves is trimmed, unless nothing is left. -/
theorem trimmed_trim {cs : List Char} (h : trim cs ≠ []) : Trimmed (trim cs) := by
  have htrim : trim cs = (cs.dropWhile isBlank).rdropWhile isBlank := rfl
  refine ⟨h, ?_, ?_⟩
  · -- The first character that is left is the first one that is not blank.
    obtain ⟨c, rest, hrest⟩ := List.exists_cons_of_ne_nil h
    have hprefix : trim cs <+: cs.dropWhile isBlank := htrim ▸ List.rdropWhile_prefix ..
    obtain ⟨back, hback⟩ := hprefix
    have hc : isBlank c = false := by
      have hhead := List.head?_dropWhile_not isBlank cs
      rw [← hback, hrest] at hhead
      simpa using hhead
    rw [hrest, List.dropWhile_cons, hc, if_neg Bool.false_ne_true]
  · rw [htrim]
    exact List.rdropWhile_idempotent ..

theorem Trimmed.head_inked {cs : List Char} (h : Trimmed cs) :
    ∀ c ∈ cs.head?, isBlank c = false := by
  intro c hc
  have hhead := List.head?_dropWhile_not isBlank cs
  rw [h.front, hc] at hhead
  simpa using hhead

theorem Trimmed.last_inked {cs : List Char} (h : Trimmed cs) :
    ∀ c ∈ cs.getLast?, isBlank c = false := by
  intro c hc
  have hself := List.rdropWhile_eq_self_iff.mp h.back h.ne_nil
  rw [List.getLast?_eq_some_getLast h.ne_nil] at hc
  cases hc
  simpa using hself

/-- Of a trimmed text behind any front, only blank characters of the front are trimmed away. -/
theorem Trimmed.trim_append {cs : List Char} (h : Trimmed cs) (front : List Char) :
    trim (front ++ cs) = front.dropWhile isBlank ++ cs := by
  have hleft : (front ++ cs).dropWhile isBlank = front.dropWhile isBlank ++ cs := by
    rw [List.dropWhile_append, h.front]
    cases front.dropWhile isBlank <;> rfl
  have hright (ds : List Char) : (ds ++ cs).rdropWhile isBlank = ds ++ cs := by
    have hlast : (ds ++ cs).getLast? = cs.getLast? := by
      rw [List.getLast?_append_of_ne_nil ds h.ne_nil]
    refine List.rdropWhile_eq_self_iff.mpr fun hne => ?_
    rw [h.last_inked _ (hlast ▸ List.getLast?_eq_some_getLast hne)]
    exact Bool.false_ne_true
  calc trim (front ++ cs) = ((front ++ cs).dropWhile isBlank).rdropWhile isBlank := rfl
    _ = front.dropWhile isBlank ++ cs := by rw [hleft, hright]

/-- The characters of a text that are not blank. -/
def inked (cs : List Char) : List Char := cs.filter fun c => !isBlank c

theorem inked_append (cs ds : List Char) : inked (cs ++ ds) = inked cs ++ inked ds :=
  List.filter_append ..

theorem inked_eq_nil_iff {cs : List Char} : inked cs = [] ↔ Blank cs := by
  simp [inked, Blank]

theorem inked_trim (cs : List Char) : inked (trim cs) = inked cs := by
  obtain ⟨front, back, hcs, hfront, hback⟩ := exists_blank_trim_blank cs
  have hparts : inked cs = inked front ++ (inked (trim cs) ++ inked back) := by
    rw [← inked_append, ← inked_append, ← hcs]
  rw [hparts, inked_eq_nil_iff.mpr hfront, inked_eq_nil_iff.mpr hback]
  simp

theorem trim_eq_nil_iff {cs : List Char} : trim cs = [] ↔ Blank cs := by
  constructor
  · intro hnil
    rw [← inked_eq_nil_iff, ← inked_trim, hnil]
    rfl
  · exact fun h => trim_append_blank [] h

theorem trimmed_ne_empty {s : String} (h : ¬ Blank s.toList) : trimmed s ≠ "" := by
  rw [ne_eq, ← String.toList_eq_nil_iff, trimmed, String.toList_ofList, trim_eq_nil_iff]
  exact h

/-- What is left of a text stands at the front of what is left of it with more behind it. -/
theorem trim_prefix_trim_append {cs : List Char} (h : trim cs ≠ []) (more : List Char) :
    trim cs <+: trim (cs ++ more) := by
  have hback (ds : List Char) : ds.rdropWhile isBlank <+: (ds ++ more).rdropWhile isBlank := by
    rw [List.rdropWhile.eq_def isBlank (ds ++ more), List.reverse_append, List.dropWhile_append]
    split
    · exact List.prefix_refl _
    · rw [List.reverse_append, List.reverse_reverse]
      exact (List.rdropWhile_prefix ..).trans (List.prefix_append _ _)
  have hfront : (cs ++ more).dropWhile isBlank = cs.dropWhile isBlank ++ more := by
    have hne : cs.dropWhile isBlank ≠ [] := by
      intro hnil
      exact h (trim_eq_nil_iff.mpr (List.dropWhile_eq_nil_iff.mp hnil))
    rw [List.dropWhile_append, if_neg (by simpa using hne)]
  calc trim cs = (cs.dropWhile isBlank).rdropWhile isBlank := rfl
    _ <+: (cs.dropWhile isBlank ++ more).rdropWhile isBlank := hback _
    _ = trim (cs ++ more) := by rw [← hfront]; rfl

/-- No code point lies in a span of both lists. -/
def apart (spans others : List (Nat × Nat)) : Bool :=
  spans.all fun span => others.all fun other => span.2 < other.1 || other.2 < span.1

theorem inSpans_of_apart {spans others : List (Nat × Nat)} {n : Nat}
    (happart : apart spans others = true) (h : inSpans spans n = true) :
    inSpans others n = false := by
  obtain ⟨span, hspan, hin⟩ := List.any_eq_true.mp h
  refine List.any_eq_false.mpr fun other hother hinOther => ?_
  have hsides := List.all_eq_true.mp (List.all_eq_true.mp happart span hspan) other hother
  simp only [Bool.and_eq_true, Bool.or_eq_true, decide_eq_true_eq] at hin hinOther hsides
  omega

/-- Spans that hold every blank character. -/
def blankSpans : List (Nat × Nat) :=
  [(0x9, 0x20), (0x85, 0xa0), (0x1680, 0x1680), (0x2000, 0x205f), (0x3000, 0x3000)]

theorem inSpans_blankSpans {c : Char} (h : isBlank c = true) :
    inSpans blankSpans c.toNat = true := by
  simp only [isBlank, isWhiteSpace, Bool.or_eq_true, Bool.and_eq_true, decide_eq_true_eq,
    beq_iff_eq] at h
  simp only [inSpans, blankSpans, List.any_cons, List.any_nil, Bool.or_eq_true,
    Bool.and_eq_true, decide_eq_true_eq]
  omega

theorem isWord_of_isBlank {c : Char} (h : isBlank c = true) : isWord c = false := by
  have hin := inSpans_blankSpans h
  have hwide : inSpans wordSpans c.toNat = false :=
    inSpans_of_apart (by decide +kernel) hin
  have hnarrow : inSpans [(48, 57), (65, 90), (95, 95), (97, 122)] c.toNat = false :=
    inSpans_of_apart (by decide) hin
  have hsign : (c == '_') = false := by
    refine beq_eq_false_iff_ne.mpr ?_
    rintro rfl
    cases hnarrow
  have halphanum : c.isAlphanum = ((decide (c.val ≥ 'A'.val ∧ c.val ≤ 'Z'.val) ||
      c.val ≥ 'a'.val && c.val ≤ 'z'.val) || c.val ≥ '0'.val && c.val ≤ '9'.val) := rfl
  rw [isWord, hwide, hsign, halphanum]
  simp only [inSpans, List.any_cons, List.any_nil, Bool.or_eq_false_iff, Bool.and_eq_false_iff,
    decide_eq_false_iff_not] at hnarrow
  simp only [ge_iff_le, UInt32.le_iff_toNat_le, Char.toNat_val, Char.reduceToNat,
    Bool.and_false, Bool.or_false, Bool.or_eq_false_iff, Bool.and_eq_false_iff,
    decide_eq_false_iff_not]
  omega

theorem takeWhile_append_blank (cs : List Char) {back : List Char} (h : Blank back) :
    (cs ++ back).takeWhile isWord = cs.takeWhile isWord := by
  induction cs with
  | nil =>
    cases back with
    | nil => rfl
    | cons c back => simp [isWord_of_isBlank (blank_cons.mp h).1]
  | cons c cs ih => simp only [List.cons_append, List.takeWhile_cons, ih]

theorem allBlank_iff {s : String} : allBlank s = true ↔ Blank s.toList := by
  simp [allBlank, Blank]

end QueryGate.Text
