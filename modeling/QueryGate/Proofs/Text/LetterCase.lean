import Mathlib.Data.List.Basic
import QueryGate.Proofs.Text.Trim
import QueryGate.Text.Lower

/-!
# Letter case

A capital sigma has two lower-case forms, and which one it takes depends on what stands around it.
Everything else is lowered by itself. So the part of a text keeps its lower-case form inside the
whole text, up to the forms of sigma; a word without sigma that occurs in the lower-case form of a
part occurs in that of the whole.

Two texts that differ in the case of ASCII letters only have the same blank characters, the same
word characters and the same lower-case form, whatever other characters they hold: the form of a
capital sigma depends on whether its neighbours have case, and not on which case they have.
-/

namespace QueryGate.Text

/-- One of the two lower-case forms of sigma for both. -/
def sameSigma (c : Char) : Char := if c = '\u03c2' then '\u03c3' else c

/-- The form of one character, from what stands before it and after it. -/
private def form (afterCased : Bool) (c : Char) (rest : List Char) : List Char :=
  if c == '\u03a3' then [if afterCased && !startsCased rest then '\u03c2' else '\u03c3']
  else lowerChar c

private theorem lowerFrom_cons (afterCased : Bool) (c : Char) (rest : List Char) :
    lowerFrom afterCased (c :: rest) =
      form afterCased c rest ++
        lowerFrom (if isCaseIgnorable c then afterCased else isCased c) rest := rfl

theorem exists_lowerFrom_append (afterCased : Bool) (front rest : List Char) :
    ∃ lowered followed,
      lowerFrom afterCased (front ++ rest) = lowered ++ lowerFrom followed rest := by
  induction front generalizing afterCased with
  | nil => exact ⟨[], afterCased, rfl⟩
  | cons c front ih =>
    obtain ⟨lowered, followed, hrest⟩ := ih (if isCaseIgnorable c then afterCased else isCased c)
    refine ⟨form afterCased c (front ++ rest) ++ lowered, followed, ?_⟩
    rw [List.cons_append, lowerFrom_cons, hrest, List.append_assoc]

private theorem form_map_sameSigma (afterCased afterCased' : Bool) (c : Char)
    (rest : List Char) :
    (form afterCased c rest).map sameSigma = (form afterCased' c rest).map sameSigma := by
  have hsigma (final : Bool) : sameSigma (if final then '\u03c2' else '\u03c3') = '\u03c3' := by
    cases final <;> decide
  unfold form
  by_cases hc : (c == '\u03a3') = true
  · rw [if_pos hc, if_pos hc, List.map_singleton, List.map_singleton, hsigma, hsigma]
  · rw [if_neg hc, if_neg hc]

theorem lowerFrom_map_sameSigma (afterCased afterCased' : Bool) (cs : List Char) :
    (lowerFrom afterCased cs).map sameSigma = (lowerFrom afterCased' cs).map sameSigma := by
  induction cs generalizing afterCased afterCased' with
  | nil => rfl
  | cons c cs ih =>
    rw [lowerFrom_cons, lowerFrom_cons, List.map_append, List.map_append,
      form_map_sameSigma afterCased afterCased']
    congr 1
    exact ih _ _

/-- A word without sigma is found in a text whatever the forms of sigma are there. -/
theorem infix_of_infix_map_sameSigma {word cs : List Char} (hword : '\u03c3' ∉ word)
    (h : word <:+: cs.map sameSigma) : word <:+: cs := by
  obtain ⟨front, back, happend⟩ := h
  obtain ⟨frontWord, more, hcs, hfrontWord, -⟩ := List.map_eq_append_iff.mp happend.symm
  obtain ⟨first, found, hfront, -, hfound⟩ := List.map_eq_append_iff.mp hfrontWord
  have hsame : found = word := by
    rw [← hfound]
    symm
    refine (List.map_congr_left fun c hc => ?_).trans (List.map_id found)
    have himage : sameSigma c ∈ word := hfound ▸ List.mem_map_of_mem hc
    by_cases hfinal : c = '\u03c2'
    · rw [sameSigma, if_pos hfinal] at himage
      exact absurd himage hword
    · rw [sameSigma, if_neg hfinal]
      rfl
  exact ⟨first, more, by rw [hcs, hfront, hsame]⟩

/-- A word without sigma that occurs in the lower-case form of the end of a text occurs in that of
the text. -/
theorem infix_lower_append {word rest : List Char} (hsigma : '\u03c3' ∉ word)
    (hfinal : '\u03c2' ∉ word) (front : List Char) (h : word <:+: lower rest) :
    word <:+: lower (front ++ rest) := by
  obtain ⟨lowered, followed, hlower⟩ := exists_lowerFrom_append false front rest
  have hself : word.map sameSigma = word := by
    refine (List.map_congr_left fun c hc => ?_).trans (List.map_id word)
    have hc' : c ≠ '\u03c2' := by
      rintro rfl
      exact hfinal hc
    rw [sameSigma, if_neg hc']
    rfl
  have hmapped : word <:+: (lowerFrom followed rest).map sameSigma := by
    rw [lowerFrom_map_sameSigma followed false, ← hself]
    exact h.map sameSigma
  rw [lower, hlower]
  exact (infix_of_infix_map_sameSigma hsigma hmapped).trans (List.suffix_append _ _).isInfix

/-- The code points of the capital letters of ASCII. -/
def capitalPoints : List Nat := List.range' 65 26

theorem toLower_ofNat :
    ∀ n ∈ capitalPoints, (Char.ofNat n).toLower = Char.ofNat (n + 32) := by decide

theorem toLower_of_notMem {c : Char} (h : c.toNat ∉ capitalPoints) : c.toLower = c := by
  have hbounds : ¬ (c.val ≥ 'A'.val ∧ c.val ≤ 'Z'.val) := by
    rintro ⟨hfirst, hlast⟩
    have hfirst := UInt32.le_iff_toNat_le.mp hfirst
    have hlast := UInt32.le_iff_toNat_le.mp hlast
    exact h (List.mem_range'_1.mpr ⟨hfirst, Nat.lt_succ_of_le hlast⟩)
  exact dif_neg hbounds

/-- What is the same for every capital of ASCII and its small letter is the same for every
character and its lower-case form. -/
theorem apply_toLower {α : Type} (f : Char → α)
    (h : ∀ n ∈ capitalPoints, f (Char.ofNat (n + 32)) = f (Char.ofNat n)) (c : Char) :
    f c.toLower = f c := by
  by_cases hcapital : c.toNat ∈ capitalPoints
  · have hsame := h _ hcapital
    rwa [← toLower_ofNat _ hcapital, Char.ofNat_toNat] at hsame
  · rw [toLower_of_notMem hcapital]

/-- Lower case gives no sign that was not there. -/
theorem toLower_eq_iff {sign : Char} (h : sign.isAlpha = false) (c : Char) :
    c.toLower = sign ↔ c = sign := by
  have halpha := apply_toLower Char.isAlpha (by decide) c
  have hcapital (hc : c.isAlpha = false) : c.toLower = c := by
    have hletters : ∀ n ∈ capitalPoints, (Char.ofNat n).isAlpha = true := by decide
    refine toLower_of_notMem fun hmem => ?_
    rw [← Char.ofNat_toNat c, hletters _ hmem] at hc
    cases hc
  constructor
  · rintro rfl
    exact (hcapital (halpha.symm.trans h)).symm
  · rintro rfl
    exact hcapital h

theorem eq_or_eq_toUpper_of_toLower {c letter : Char} (h : c.toLower = letter) :
    c = letter ∨ c = letter.toUpper := by
  subst h
  by_cases hcapital : c.toNat ∈ capitalPoints
  · have hupper : ∀ n ∈ capitalPoints, Char.ofNat n = (Char.ofNat n).toLower.toUpper := by
      decide
    have hsame := hupper _ hcapital
    rw [Char.ofNat_toNat] at hsame
    exact .inr hsame
  · exact .inl (toLower_of_notMem hcapital).symm

@[simp] theorem isBlank_toLower (c : Char) : isBlank c.toLower = isBlank c :=
  apply_toLower isBlank (by decide) c

@[simp] theorem isWord_toLower (c : Char) : isWord c.toLower = isWord c :=
  apply_toLower isWord (by decide) c

@[simp] theorem isCased_toLower (c : Char) : isCased c.toLower = isCased c :=
  apply_toLower isCased (by decide) c

@[simp] theorem isCaseIgnorable_toLower (c : Char) :
    isCaseIgnorable c.toLower = isCaseIgnorable c := by
  have happart : apart [(65, 90), (97, 122)] ignorableSpans = true := by decide +kernel
  have hletters : ∀ n ∈ capitalPoints,
      inSpans [(65, 90), (97, 122)] (Char.ofNat (n + 32)).toNat = true ∧
        inSpans [(65, 90), (97, 122)] (Char.ofNat n).toNat = true := by decide
  refine apply_toLower isCaseIgnorable (fun n hn => ?_) c
  obtain ⟨hsmall, hcapital⟩ := hletters n hn
  rw [isCaseIgnorable, isCaseIgnorable, inSpans_of_apart happart hsmall,
    inSpans_of_apart happart hcapital]

@[simp] theorem lowerChar_toLower (c : Char) : lowerChar c.toLower = lowerChar c :=
  apply_toLower lowerChar (by decide) c

/-- The text with every ASCII letter in lower case. -/
def lowered (cs : List Char) : List Char := cs.map Char.toLower

@[simp] theorem lowered_nil : lowered [] = [] := rfl

@[simp] theorem lowered_cons (c : Char) (cs : List Char) :
    lowered (c :: cs) = c.toLower :: lowered cs := rfl

@[simp] theorem length_lowered (cs : List Char) : (lowered cs).length = cs.length :=
  List.length_map _

theorem trim_lowered (cs : List Char) : trim (lowered cs) = lowered (trim cs) := by
  have hblank : isBlank ∘ Char.toLower = isBlank := funext isBlank_toLower
  have hfront (ds : List Char) :
      (lowered ds).dropWhile isBlank = lowered (ds.dropWhile isBlank) := by
    rw [lowered, List.dropWhile_map, hblank, lowered]
  have hreverse (ds : List Char) : (lowered ds).reverse = lowered ds.reverse := by
    rw [lowered, ← List.map_reverse, lowered]
  simp only [trim, trimBy, trimBack, trimFront, hfront, hreverse]

theorem takeWhile_lowered {p : Char → Bool} (h : ∀ c, p c.toLower = p c) (cs : List Char) :
    (lowered cs).takeWhile p = lowered (cs.takeWhile p) := by
  have hcomp : p ∘ Char.toLower = p := funext h
  rw [lowered, List.takeWhile_map, hcomp, lowered]

theorem startsCased_lowered (cs : List Char) : startsCased (lowered cs) = startsCased cs := by
  induction cs with
  | nil => rfl
  | cons c cs ih => simp [startsCased, ih]

theorem lowerFrom_lowered (afterCased : Bool) (cs : List Char) :
    lowerFrom afterCased (lowered cs) = lowerFrom afterCased cs := by
  induction cs generalizing afterCased with
  | nil => rfl
  | cons c cs ih =>
    have hsigma : (c.toLower == '\u03a3') = (c == '\u03a3') := by
      rw [Bool.eq_iff_iff, beq_iff_eq, beq_iff_eq]
      exact toLower_eq_iff (by decide) c
    simp only [lowered_cons, lowerFrom, hsigma, startsCased_lowered, lowerChar_toLower,
      isCaseIgnorable_toLower, isCased_toLower, ih]

theorem lower_lowered (cs : List Char) : lower (lowered cs) = lower cs := lowerFrom_lowered false cs

end QueryGate.Text
