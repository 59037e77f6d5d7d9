import Mathlib.Data.Nat.Digits.Defs
import QueryGate.Proofs.Number.Integer
import QueryGate.Proofs.Number.Rounding
import QueryGate.Proofs.Text.Trim

/-!
# Numerals

A numeral is a decimal number between blank characters: a sign, digits of any script with a point
among them, single underscores between digits, and a power of ten. What is read liberally as a
finite number is a numeral, and every numeral is read as the double nearest to its exact value, or
as infinity if it lies beyond the doubles. The decimal texts of integers are among the numerals.
-/

namespace QueryGate.Number

open QueryGate.Text

theorem digitIn_of_inSpans {spans : List (Nat × Nat)} {n : Nat} (h : inSpans spans n = false) :
    digitIn spans n = none := by
  induction spans with
  | nil => rfl
  | cons span rest ih =>
    rw [inSpans, List.any_cons, Bool.or_eq_false_iff] at h
    have houtside : (decide (span.1 ≤ n) && decide (n ≤ span.2)) = false := h.1
    rw [digitIn, houtside, if_neg Bool.false_ne_true, ih h.2]

theorem digitValue?_ascii {c : Char} (h : c.toNat < 128) :
    digitValue? c = if c.isDigit then some (c.toNat - 48) else none := by
  have happart : apart [(0, 127)] digitSpans.tail = true := by decide
  have hascii : inSpans [(0, 127)] c.toNat = true := by
    simp only [inSpans, List.any_cons, List.any_nil, Bool.or_false, Bool.and_eq_true,
      decide_eq_true_eq]
    omega
  have hfirst : digitValue? c = if 48 ≤ c.toNat && c.toNat ≤ 57 then some ((c.toNat - 48) % 10)
      else digitIn digitSpans.tail c.toNat := rfl
  rw [hfirst, digitIn_of_inSpans (inSpans_of_apart happart hascii)]
  simp only [Bool.and_eq_true, decide_eq_true_eq, Char.isDigit_iff_toNat, Char.reduceToNat]
  refine if_ctx_congr Iff.rfl (fun hdigit => congrArg some ?_) fun _ => rfl
  exact Nat.mod_eq_of_lt (by omega)

theorem digitValue?_of_isBlank {c : Char} (h : isBlank c = true) : digitValue? c = none :=
  digitIn_of_inSpans (inSpans_of_apart (by decide) (inSpans_blankSpans h))

theorem lt_of_digitIn {spans : List (Nat × Nat)} {n d : Nat} (h : digitIn spans n = some d) :
    d < 10 := by
  fun_induction digitIn spans n with
  | case1 => cases h
  | case2 =>
    cases h
    omega
  | case3 first last rest n hout ih => exact ih h

/-- What a character becomes: ASCII stays, a blank character becomes a space, a digit the ASCII
digit of the same value, and anything else a character that no number has. -/
theorem toAscii_cases (c : Char) :
    c.toNat < 128 ∧ toAscii c = c ∨
      128 ≤ c.toNat ∧ (isBlank c = true ∧ toAscii c = ' ' ∨
        isBlank c = false ∧ (∃ d, digitValue? c = some d ∧ toAscii c = Char.ofNat (48 + d)) ∨
        isBlank c = false ∧ digitValue? c = none ∧ toAscii c = '?') := by
  unfold toAscii
  split
  · next hascii => exact .inl ⟨hascii, rfl⟩
  · next hascii =>
    refine .inr ⟨by omega, ?_⟩
    cases hblank : isBlank c with
    | true => exact .inl ⟨rfl, by simp⟩
    | false =>
      cases hdigit : digitValue? c with
      | some d => exact .inr (.inl ⟨rfl, d, rfl, by simp⟩)
      | none => exact .inr (.inr ⟨rfl, rfl, by simp⟩)

/-- A digit of any script becomes the ASCII digit of its value. -/
theorem toAscii_of_digitValue? {c : Char} {d : Nat} (h : digitValue? c = some d) :
    d < 10 ∧ toAscii c = Char.ofNat (48 + d) := by
  refine ⟨lt_of_digitIn h, ?_⟩
  rcases toAscii_cases c with ⟨hascii, heq⟩ | ⟨-, ⟨hblank, -⟩ | ⟨-, d', hd', heq⟩ | ⟨-, hnone, -⟩⟩
  · rw [digitValue?_ascii hascii] at h
    split at h
    · next hdigit =>
      obtain rfl := Option.some.inj h
      have hbounds := bounds_of_isDigit hdigit
      have hsum : 48 + (c.toNat - 48) = c.toNat := by omega
      rw [heq, hsum, Char.ofNat_toNat]
    · cases h
  · rw [digitValue?_of_isBlank hblank] at h
    cases h
  · obtain rfl := Option.some.inj (hd'.symm.trans h)
    exact heq
  · rw [hnone] at h
    cases h

theorem isDigit_ofNat {d : Nat} (h : d < 10) :
    (Char.ofNat (48 + d)).isDigit = true ∧ (Char.ofNat (48 + d)).toNat = 48 + d := by
  have hdigits : ∀ d < 10, (Char.ofNat (48 + d)).isDigit = true ∧
      (Char.ofNat (48 + d)).toNat = 48 + d := by decide
  exact hdigits d h

theorem exists_digitValue? {c : Char} (h : (toAscii c).isDigit = true) :
    ∃ d, digitValue? c = some d := by
  rcases toAscii_cases c with ⟨hascii, heq⟩ | ⟨-, ⟨-, heq⟩ | ⟨-, d, hd, -⟩ | ⟨-, -, heq⟩⟩
  · rw [heq] at h
    exact ⟨_, (digitValue?_ascii hascii).trans (if_pos h)⟩
  · rw [heq] at h
    exact absurd h (by decide)
  · exact ⟨d, hd⟩
  · rw [heq] at h
    exact absurd h (by decide)

/-- A mark of ASCII that is no digit stands for itself only. -/
theorem toAscii_eq_iff {c mark : Char} (hmark : mark.toNat < 128 ∧ mark.isDigit = false ∧
    mark ≠ ' ' ∧ mark ≠ '?') : toAscii c = mark ↔ c = mark := by
  obtain ⟨hascii, hdigit, hspace, hother⟩ := hmark
  constructor
  · intro h
    rcases toAscii_cases c with ⟨-, heq⟩ | ⟨-, ⟨-, heq⟩ | ⟨-, d, hd, heq⟩ | ⟨-, -, heq⟩⟩
    · exact heq.symm.trans h
    · exact absurd (h.symm.trans heq) hspace
    · rw [← h, heq, (isDigit_ofNat (lt_of_digitIn hd)).1] at hdigit
      cases hdigit
    · exact absurd (h.symm.trans heq) hother
  · rintro rfl
    exact if_pos hascii

/-- Only blank characters become spaces that are passed over. -/
theorem isBlank_of_isAsciiSpace {c : Char} (h : isAsciiSpace (toAscii c) = true) :
    isBlank c = true := by
  rcases toAscii_cases c with ⟨-, heq⟩ | ⟨-, ⟨hblank, -⟩ | ⟨-, d, hd, heq⟩ | ⟨-, -, heq⟩⟩
  · rw [heq] at h
    simp only [isAsciiSpace, Bool.or_eq_true, beq_iff_eq, Bool.and_eq_true, decide_eq_true_eq] at h
    rcases h with rfl | h
    · rfl
    · simp [isBlank, isWhiteSpace, h]
  · exact hblank
  · have hspaces : ∀ d < 10, isAsciiSpace (Char.ofNat (48 + d)) = false := by decide
    rw [heq, hspaces d (lt_of_digitIn hd)] at h
    cases h
  · rw [heq] at h
    exact absurd h (by decide)

/-- Digits of any script, with single underscores between them, and the values of the digits. -/
inductive DigitRun : List Char → List Nat → Prop
  | last {c : Char} {d : Nat} (hc : digitValue? c = some d) : DigitRun [c] [d]
  | digit {c : Char} {d : Nat} {cs : List Char} {ds : List Nat} (hc : digitValue? c = some d)
      (rest : DigitRun cs ds) : DigitRun (c :: cs) (d :: ds)
  | grouped {c : Char} {d : Nat} {cs : List Char} {ds : List Nat} (hc : digitValue? c = some d)
      (rest : DigitRun cs ds) : DigitRun (c :: '_' :: cs) (d :: ds)

/-- The number that digits stand for, the first one being the most significant. -/
def ofDigits (ds : List Nat) : Nat := Nat.ofDigits 10 ds.reverse

/-- A sign that may be left out. -/
inductive SignText : List Char → Bool → Prop
  | absent : SignText [] false
  | plus : SignText ['+'] false
  | minus : SignText ['-'] true

/-- The digits of a number, perhaps with a point among them or at either end, and how many of them
stand behind the point. -/
inductive Significand : List Char → List Nat → Nat → Prop
  | whole {cs : List Char} {ds : List Nat} (h : DigitRun cs ds) : Significand cs ds 0
  | point {cs : List Char} {ds : List Nat} (h : DigitRun cs ds) : Significand (cs ++ ['.']) ds 0
  | fraction {cs : List Char} {ds : List Nat} (h : DigitRun cs ds) :
      Significand ('.' :: cs) ds ds.length
  | both {cs more : List Char} {ds es : List Nat} (h : DigitRun cs ds) (h' : DigitRun more es) :
      Significand (cs ++ '.' :: more) (ds ++ es) es.length

/-- The power of ten behind a number, which may be left out. -/
inductive ExponentText : List Char → Int → Prop
  | absent : ExponentText [] 0
  | marked {mark : Char} {sign cs : List Char} {negative : Bool} {ds : List Nat}
      (hmark : mark = 'e' ∨ mark = 'E') (hsign : SignText sign negative) (h : DigitRun cs ds) :
      ExponentText (mark :: (sign ++ cs)) (if negative then -(ofDigits ds : Int) else ofDigits ds)

/-- A decimal number: its sign, its digits as a number, and the power of ten to scale it by. -/
inductive DecimalText : List Char → Bool → Nat → Int → Prop
  | parts {sign digits behind : List Char} {negative : Bool} {ds : List Nat} {places : Nat}
      {exponent : Int} (hsign : SignText sign negative) (hdigits : Significand digits ds places)
      (hbehind : ExponentText behind exponent) :
      DecimalText (sign ++ (digits ++ behind)) negative (ofDigits ds) (exponent - places)

/-- The text of a number between blank characters, with its exact value. -/
inductive Numeral : List Char → ℚ → Prop
  | decimal {front body back : List Char} {negative : Bool} {coefficient : Nat} {exponent : Int}
      (hfront : Blank front) (hback : Blank back)
      (hbody : DecimalText body negative coefficient exponent) :
      Numeral (front ++ (body ++ back)) (Double.signed negative (coefficient * 10 ^ exponent))

/-- The ASCII digits of values. -/
def asciiDigits (ds : List Nat) : List Char := ds.map fun d => Char.ofNat (48 + d)

theorem asciiDigits_append (ds es : List Nat) :
    asciiDigits (ds ++ es) = asciiDigits ds ++ asciiDigits es := List.map_append ..

theorem length_asciiDigits (ds : List Nat) : (asciiDigits ds).length = ds.length :=
  List.length_map ..

/-- What is read of a text: its characters as ASCII, without the underscores. -/
def bare (cs : List Char) : List Char := (cs.map toAscii).filter (· != '_')

theorem bare_append (cs more : List Char) : bare (cs ++ more) = bare cs ++ bare more := by
  simp [bare]

theorem bare_cons {c : Char} (h : toAscii c ≠ '_') (rest : List Char) :
    bare (c :: rest) = toAscii c :: bare rest :=
  List.filter_cons_of_pos (by simpa using h)

theorem toAscii_ne_underscore {c : Char} {d : Nat} (h : digitValue? c = some d) :
    toAscii c ≠ '_' := by
  obtain ⟨hd, heq⟩ := toAscii_of_digitValue? h
  rw [heq]
  rintro hmark
  have hdigit := (isDigit_ofNat hd).1
  rw [hmark] at hdigit
  exact absurd hdigit (by decide)

theorem DigitRun.bare_eq {cs : List Char} {ds : List Nat} (h : DigitRun cs ds) :
    bare cs = asciiDigits ds := by
  have hdigit {c : Char} {d : Nat} (hc : digitValue? c = some d) (rest : List Char) :
      bare (c :: rest) = Char.ofNat (48 + d) :: bare rest := by
    rw [bare_cons (toAscii_ne_underscore hc), (toAscii_of_digitValue? hc).2]
  induction h with
  | last hc => rw [hdigit hc]; rfl
  | digit hc _ ih => rw [hdigit hc, ih]; rfl
  | grouped hc _ ih =>
    rw [hdigit hc]
    exact congrArg _ ih

theorem DigitRun.lt {cs : List Char} {ds : List Nat} (h : DigitRun cs ds) : ∀ d ∈ ds, d < 10 := by
  induction h with
  | last hc => simpa using lt_of_digitIn hc
  | digit hc _ ih => exact List.forall_mem_cons.mpr ⟨lt_of_digitIn hc, ih⟩
  | grouped hc _ ih => exact List.forall_mem_cons.mpr ⟨lt_of_digitIn hc, ih⟩

theorem DigitRun.point_notMem {cs : List Char} {ds : List Nat} (h : DigitRun cs ds) :
    '.' ∉ cs := by
  have hpoint {c : Char} {d : Nat} (hc : digitValue? c = some d) : '.' ≠ c := by
    rintro rfl
    have hnone : digitValue? '.' = none := by decide
    rw [hnone] at hc
    cases hc
  induction h with
  | last hc => simpa using hpoint hc
  | digit hc _ ih => simpa using ⟨hpoint hc, ih⟩
  | grouped hc _ ih => simpa using ⟨hpoint hc, ih⟩

theorem DigitRun.ne_nil {cs : List Char} {ds : List Nat} (h : DigitRun cs ds) : ds ≠ [] := by
  cases h <;> exact List.cons_ne_nil _ _

theorem isDigit_of_mem_asciiDigits {ds : List Nat} (h : ∀ d ∈ ds, d < 10) :
    ∀ c ∈ asciiDigits ds, c.isDigit = true := by
  intro c hc
  obtain ⟨d, hd, rfl⟩ := List.mem_map.mp hc
  exact (isDigit_ofNat (h d hd)).1

theorem digitsValue_asciiDigits {ds : List Nat} (h : ∀ d ∈ ds, d < 10) :
    digitsValue (asciiDigits ds) = ofDigits ds := by
  induction ds using List.reverseRecOn with
  | nil => rfl
  | append_singleton ds d ih =>
    rw [List.forall_mem_append] at h
    have hd := (isDigit_ofNat (h.2 d (List.mem_singleton_self d))).2
    rw [digitsValue, asciiDigits, List.map_append, List.foldl_append]
    change 10 * digitsValue (asciiDigits ds) + ((Char.ofNat (48 + d)).toNat - 48) = _
    rw [ih h.1, hd, ofDigits, ofDigits, List.reverse_append, List.reverse_singleton,
      List.singleton_append, Nat.ofDigits_cons]
    omega

theorem underscoresFit_cons {c : Char} (h : c ≠ '_') (afterDigit : Bool) (rest : List Char) :
    underscoresFit afterDigit (c :: rest) = underscoresFit c.isDigit rest := by
  rw [underscoresFit]
  exact fun heq => h heq

theorem underscoresFit_between (rest : List Char) :
    underscoresFit true ('_' :: rest) =
      (rest.head?.any Char.isDigit && underscoresFit false rest) := by
  rw [underscoresFit.eq_def]
  cases rest <;> rfl

/-- Underscores fit in a run of digits, and what is behind it is read behind a digit. -/
theorem DigitRun.underscoresFit_append {cs : List Char} {ds : List Nat} (h : DigitRun cs ds)
    (afterDigit : Bool) (rest : List Char) :
    underscoresFit afterDigit (cs.map toAscii ++ rest) = underscoresFit true rest := by
  have hdigit {c : Char} {d : Nat} (hc : digitValue? c = some d) (afterDigit : Bool)
      (rest : List Char) :
      underscoresFit afterDigit (toAscii c :: rest) = underscoresFit true rest := by
    rw [underscoresFit_cons (toAscii_ne_underscore hc), (toAscii_of_digitValue? hc).2,
      (isDigit_ofNat (lt_of_digitIn hc)).1]
  induction h generalizing afterDigit with
  | last hc => exact hdigit hc afterDigit rest
  | digit hc _ ih => rw [List.map_cons, List.cons_append, hdigit hc, ih]
  | @grouped c d cs ds hc hrest ih =>
    -- Behind the underscore, the run goes on with a digit.
    obtain ⟨next, more, hcs, hnext⟩ : ∃ next more, cs.map toAscii = next :: more ∧
        next.isDigit = true := by
      cases hrest with
      | last hc' | digit hc' _ | grouped hc' _ =>
        refine ⟨_, _, rfl, ?_⟩
        rw [(toAscii_of_digitValue? hc').2]
        exact (isDigit_ofNat (lt_of_digitIn hc')).1
    have hmark : toAscii '_' = '_' := by decide
    rw [List.map_cons, List.cons_append, hdigit hc, List.map_cons, hmark, List.cons_append]
    rw [hcs] at ih ⊢
    rw [List.cons_append, underscoresFit_between, List.head?_cons, Option.any_some, hnext,
      Bool.true_and]
    exact ih false

/-- A text starts with nothing that belongs to the number before it. -/
def EndsDigits (cs : List Char) : Prop := ∀ c ∈ cs.head?, c.isDigit = false ∧ c ≠ '.'

section

variable {cs rest : List Char}

theorem takeWhile_digits (h : ∀ c ∈ cs, c.isDigit = true)
    (hrest : ∀ c ∈ rest.head?, c.isDigit = false) : (cs ++ rest).takeWhile Char.isDigit = cs := by
  rw [List.takeWhile_append_of_pos h]
  cases rest with
  | nil => simp
  | cons c rest => simp [hrest c rfl]

theorem dropWhile_digits (h : ∀ c ∈ cs, c.isDigit = true)
    (hrest : ∀ c ∈ rest.head?, c.isDigit = false) : (cs ++ rest).dropWhile Char.isDigit = rest := by
  rw [List.dropWhile_append_of_pos h]
  cases rest with
  | nil => rfl
  | cons c rest => exact List.dropWhile_cons_of_neg (by simp [hrest c rfl])

end

theorem readDecimal_whole (negative : Bool) {cs rest : List Char} (hne : cs ≠ [])
    (h : ∀ c ∈ cs, c.isDigit = true) (hrest : EndsDigits rest) :
    readDecimal negative (cs ++ rest) = (readExponent rest).map fun exponent =>
      Double.ofDecimal negative (digitsValue cs) exponent := by
  have hends : ∀ c ∈ rest.head?, c.isDigit = false := fun c hc => (hrest c hc).1
  rw [readDecimal, takeWhile_digits h hends, dropWhile_digits h hends]
  cases rest with
  | nil => simp [hne]
  | cons c rest =>
    have hc : c ≠ '.' := (hrest c rfl).2
    simp [hne, hc]

theorem readDecimal_fraction (negative : Bool) {cs more rest : List Char}
    (hne : cs ≠ [] ∨ more ≠ []) (h : ∀ c ∈ cs, c.isDigit = true)
    (hmore : ∀ c ∈ more, c.isDigit = true) (hrest : ∀ c ∈ rest.head?, c.isDigit = false) :
    readDecimal negative (cs ++ '.' :: (more ++ rest)) = (readExponent rest).map fun exponent =>
      Double.ofDecimal negative (digitsValue (cs ++ more)) (exponent - more.length) := by
  have hpoint : ∀ c ∈ ('.' :: (more ++ rest)).head?, c.isDigit = false := by
    rintro c ⟨⟩
    rfl
  rw [readDecimal, takeWhile_digits h hpoint, dropWhile_digits h hpoint]
  simp only [takeWhile_digits hmore hrest, dropWhile_digits hmore hrest]
  rw [if_neg]
  simpa [imp_iff_not_or] using hne

theorem readDecimal_eq_none (negative : Bool) {rest : List Char}
    (h : ∀ c ∈ rest.head?, c.isDigit = false) (hafter : ∀ after, rest = '.' :: after →
      ∀ c ∈ after.head?, c.isDigit = false) : readDecimal negative rest = none := by
  have hnone {cs : List Char} (h : ∀ c ∈ cs.head?, c.isDigit = false) :
      cs.takeWhile Char.isDigit = [] :=
    @takeWhile_digits [] cs (fun _ hc => nomatch hc) h
  have hsame : rest.dropWhile Char.isDigit = rest :=
    @dropWhile_digits [] rest (fun _ hc => nomatch hc) h
  rw [readDecimal, hnone h, hsame]
  split
  next heq =>
    split at heq
    · next after =>
      obtain ⟨rfl, -⟩ := Prod.mk.inj heq
      simp [hnone (hafter after rfl)]
    · obtain ⟨rfl, -⟩ := Prod.mk.inj heq
      simp

section

variable {sign digits behind : List Char} {negative : Bool} {ds : List Nat} {places : Nat}
  {exponent : Int}

theorem SignText.map_toAscii (h : SignText sign negative) : sign.map toAscii = sign := by
  cases h <;> rfl

theorem SignText.bare_append (h : SignText sign negative) (rest : List Char) :
    bare (sign ++ rest) = sign ++ bare rest := by
  cases h <;> rfl

theorem SignText.readSign (h : SignText sign negative) {rest : List Char}
    (hrest : ∀ c ∈ rest.head?, c ≠ '+' ∧ c ≠ '-') : readSign (sign ++ rest) = (negative, rest) := by
  cases h with
  | absent =>
    rw [List.nil_append, Number.readSign.eq_def]
    split
    · exact absurd rfl (hrest _ rfl).2
    · exact absurd rfl (hrest _ rfl).1
    · rfl
  | plus | minus => rfl

theorem SignText.underscoresFit (h : SignText sign negative) {rest : List Char}
    (hrest : underscoresFit false rest = true) :
    underscoresFit false (sign ++ rest) = true := by
  cases h with
  | absent => exact hrest
  | plus | minus => exact hrest

theorem DigitRun.head_bare {cs : List Char} (h : DigitRun cs ds) :
    ∀ c ∈ (bare cs).head?, c.isDigit = true := by
  rw [h.bare_eq]
  exact fun c hc => isDigit_of_mem_asciiDigits h.lt c (List.mem_of_mem_head? hc)

theorem ne_sign_of_isDigit {c : Char} (h : c.isDigit = true) : c ≠ '+' ∧ c ≠ '-' := by
  refine ⟨?_, ?_⟩ <;> rintro rfl <;> exact absurd h (by decide)

/-- Underscores fit in the text of an exponent, whatever stands before it. -/
theorem ExponentText.fits (h : ExponentText behind exponent) (afterDigit : Bool) :
    underscoresFit afterDigit (behind.map toAscii) = true := by
  cases h with
  | absent => rfl
  | @marked mark sign cs negative ds hmark hsign hrun =>
    have hascii : toAscii mark = mark ∧ mark ≠ '_' ∧ mark.isDigit = false := by
      rcases hmark with rfl | rfl <;> decide
    rw [List.map_cons, hascii.1, underscoresFit_cons hascii.2.1, hascii.2.2, List.map_append,
      hsign.map_toAscii]
    refine hsign.underscoresFit ?_
    simpa [underscoresFit] using hrun.underscoresFit_append false []

theorem ExponentText.ends (h : ExponentText behind exponent) : EndsDigits (bare behind) := by
  cases h with
  | absent => exact fun _ hc => nomatch hc
  | marked hmark => rcases hmark with rfl | rfl <;> · rintro c ⟨⟩; decide

theorem ExponentText.readExponent (h : ExponentText behind exponent) :
    readExponent (bare behind) = some exponent := by
  cases h with
  | absent => rfl
  | @marked mark sign cs negative ds hmark hsign hrun =>
    have hbare : bare (mark :: (sign ++ cs)) = mark :: bare (sign ++ cs) := by
      rcases hmark with rfl | rfl <;> rfl
    have hmarked : (mark == 'e' || mark == 'E') = true := by
      rcases hmark with rfl | rfl <;> rfl
    have hdigits : (asciiDigits ds).all Char.isDigit = true :=
      List.all_eq_true.mpr (isDigit_of_mem_asciiDigits hrun.lt)
    have hne : asciiDigits ds ≠ [] := by simpa [asciiDigits] using hrun.ne_nil
    rw [hbare, hsign.bare_append, Number.readExponent,
      hsign.readSign fun c hc => ne_sign_of_isDigit (hrun.head_bare c hc)]
    simp [hmarked, hrun.bare_eq, hdigits, hne, digitsValue_asciiDigits hrun.lt]

/-- The digits of a number are read with the exponent behind them. -/
theorem Significand.readDecimal (h : Significand digits ds places) (negative : Bool)
    {rest : List Char} (hrest : ∀ c ∈ rest.head?, c.isDigit = false)
    (hpoint : '.' ∈ digits ∨ ∀ c ∈ rest.head?, c ≠ '.') :
    readDecimal negative (bare digits ++ rest) = (readExponent rest).map fun exponent =>
      Double.ofDecimal negative (ofDigits ds) (exponent - places) := by
  have hdigit {cs : List Char} {ds : List Nat} (h : DigitRun cs ds) :
      ∀ c ∈ asciiDigits ds, c.isDigit = true := isDigit_of_mem_asciiDigits h.lt
  have hne {cs : List Char} {ds : List Nat} (h : DigitRun cs ds) : asciiDigits ds ≠ [] := by
    simpa [asciiDigits] using h.ne_nil
  cases h with
  | whole hrun =>
    have hends : EndsDigits rest := fun c hc =>
      ⟨hrest c hc, hpoint.resolve_left hrun.point_notMem c hc⟩
    rw [hrun.bare_eq, readDecimal_whole negative (hne hrun) (hdigit hrun) hends,
      digitsValue_asciiDigits hrun.lt]
    simp
  | @point cs ds hrun =>
    have hread := @readDecimal_fraction negative _ [] rest (.inl (hne hrun)) (hdigit hrun)
      (fun _ hc => nomatch hc) hrest
    rw [bare_append, hrun.bare_eq, List.append_assoc]
    rw [List.append_nil, digitsValue_asciiDigits hrun.lt] at hread
    exact hread
  | @fraction cs ds hrun =>
    have hread := @readDecimal_fraction negative [] _ rest (.inr (hne hrun))
      (fun _ hc => nomatch hc) (hdigit hrun) hrest
    rw [List.nil_append, List.nil_append, digitsValue_asciiDigits hrun.lt,
      length_asciiDigits] at hread
    rw [← List.singleton_append, bare_append, hrun.bare_eq, List.append_assoc]
    exact hread
  | @both cs more ds es hrun hmore =>
    have hlt : ∀ d ∈ ds ++ es, d < 10 := List.forall_mem_append.mpr ⟨hrun.lt, hmore.lt⟩
    have hread := readDecimal_fraction negative (.inl (hne hrun)) (hdigit hrun) (hdigit hmore)
      hrest
    rw [← asciiDigits_append, digitsValue_asciiDigits hlt, length_asciiDigits] at hread
    rw [← List.singleton_append, bare_append, bare_append, hrun.bare_eq, hmore.bare_eq,
      List.append_assoc, List.append_assoc]
    exact hread

/-- Underscores fit in the digits of a number, if they fit in what is behind them. -/
theorem Significand.fits (h : Significand digits ds places) {rest : List Char}
    (hrest : ∀ afterDigit, underscoresFit afterDigit rest = true) (afterDigit : Bool) :
    underscoresFit afterDigit (digits.map toAscii ++ rest) = true := by
  have hpoint : [toAscii '.'] = ['.'] := rfl
  cases h with
  | whole hrun => rw [hrun.underscoresFit_append, hrest]
  | point hrun =>
    rw [List.map_append, List.append_assoc, hrun.underscoresFit_append]
    exact hrest false
  | fraction hrun => exact (hrun.underscoresFit_append false rest).trans (hrest true)
  | @both cs more ds es hrun hmore =>
    rw [List.map_append, List.append_assoc, hrun.underscoresFit_append]
    exact (hmore.underscoresFit_append false rest).trans (hrest true)

/-- The digits of a number start with a digit or with the point. -/
theorem Significand.exists_head (h : Significand digits ds places) :
    ∃ c rest, bare digits = c :: rest ∧ (c.isDigit = true ∨ c = '.') := by
  have hrun {cs : List Char} {ds : List Nat} (h : DigitRun cs ds) :
      ∃ c rest, bare cs = c :: rest ∧ c.isDigit = true := by
    obtain ⟨d, more, rfl⟩ := List.exists_cons_of_ne_nil h.ne_nil
    exact ⟨_, _, h.bare_eq, (isDigit_ofNat (h.lt d List.mem_cons_self)).1⟩
  cases h with
  | whole h =>
    obtain ⟨c, rest, hbare, hc⟩ := hrun h
    exact ⟨c, rest, hbare, .inl hc⟩
  | point h | both h _ =>
    obtain ⟨c, rest, hbare, hc⟩ := hrun h
    exact ⟨c, _, by rw [bare_append, hbare, List.cons_append], .inl hc⟩
  | fraction _ => exact ⟨'.', _, rfl, .inr rfl⟩

/-- What starts with a digit or with the point is not a word for infinity or for a NaN. -/
theorem readNumber_sign_append (hsign : SignText sign negative) {c : Char} {rest : List Char}
    (hc : c.isDigit = true ∨ c = '.') :
    readNumber (sign ++ c :: rest) = readDecimal negative (c :: rest) := by
  have hne {mark : Char} (hdigit : mark.isDigit = false) (hpoint : mark ≠ '.') : c ≠ mark := by
    rintro rfl
    rcases hc with hc | hc
    · exact absurd (hdigit.symm.trans hc) Bool.false_ne_true
    · exact hpoint hc
  have hlower : c.toLower = c := by
    rcases hc with hc | rfl
    · have hbounds := bounds_of_isDigit hc
      refine dif_neg fun hupper => ?_
      have hupper : 65 ≤ c.toNat := hupper.1
      omega
    · rfl
  have hword (word : String) (mark : Char) (hmark : word.toList.head? = some mark)
      (hdigit : mark.isDigit = false) (hpoint : mark ≠ '.') :
      (String.ofList ((c :: rest).map Char.toLower) == word) = false := by
    refine beq_eq_false_iff_ne.mpr fun heq => ?_
    rw [← heq, String.toList_ofList, List.map_cons, hlower] at hmark
    exact hne hdigit hpoint (Option.some.inj hmark)
  have hsigns : ∀ c' ∈ (c :: rest).head?, c' ≠ '+' ∧ c' ≠ '-' := by
    rintro c' ⟨⟩
    exact ⟨hne (by decide) (by decide), hne (by decide) (by decide)⟩
  rw [readNumber, hsign.readSign hsigns]
  dsimp only
  rw [hword "inf" 'i' (by decide) (by decide) (by decide),
    hword "infinity" 'i' (by decide) (by decide) (by decide),
    hword "nan" 'n' (by decide) (by decide) (by decide)]
  rfl

end

section

variable {body : List Char} {negative : Bool} {coefficient : Nat} {exponent : Int}

/-- A decimal number is read as the double nearest to it. -/
theorem DecimalText.readNumber (h : DecimalText body negative coefficient exponent) :
    readNumber (bare body) = some (Double.ofDecimal negative coefficient exponent) := by
  cases h with
  | @parts sign digits behind _ ds places exponent hsign hdigits hbehind =>
    obtain ⟨c, rest, hhead, hc⟩ := hdigits.exists_head
    have hread := hdigits.readDecimal negative (fun c hc => (hbehind.ends c hc).1)
      (.inr fun c hc => (hbehind.ends c hc).2)
    rw [hbehind.readExponent] at hread
    rw [hsign.bare_append, bare_append, hhead, List.cons_append, readNumber_sign_append hsign hc,
      ← List.cons_append, ← hhead, hread]
    rfl

theorem DecimalText.fits (h : DecimalText body negative coefficient exponent) :
    underscoresFit false (body.map toAscii) = true := by
  cases h with
  | parts hsign hdigits hbehind =>
    rw [List.map_append, List.map_append, hsign.map_toAscii]
    exact hsign.underscoresFit (hdigits.fits hbehind.fits false)

end

/-- The characters of a run of digits, without a look at where the underscores stand. -/
def inRun (c : Char) : Bool := (toAscii c).isDigit || c == '_'

theorem inRun_eq_false_iff {c : Char} :
    inRun c = false ↔ (toAscii c).isDigit = false ∧ toAscii c ≠ '_' := by
  rw [inRun, Bool.or_eq_false_iff, beq_eq_false_iff_ne, ne_eq, ne_eq,
    toAscii_eq_iff (by decide)]

/-- What is left of a text behind a run of digits. -/
def EndsRun (rest : List Char) : Prop := ∀ c ∈ rest.head?, inRun c = false

theorem EndsRun.head_bare {rest : List Char} (h : EndsRun rest) :
    ∀ c ∈ (bare rest).head?, c.isDigit = false := by
  cases rest with
  | nil => exact fun _ hc => nomatch hc
  | cons c rest =>
    obtain ⟨hdigit, hmark⟩ := inRun_eq_false_iff.mp (h c rfl)
    rintro c' hc'
    rw [bare_cons hmark] at hc'
    cases hc'
    exact hdigit

/-- Characters among which underscores fit are a run of digits. -/
theorem exists_digitRun {cs rest : List Char} (hcs : ∀ c ∈ cs, inRun c = true)
    (hrest : EndsRun rest) (hfit : underscoresFit false ((cs ++ rest).map toAscii) = true)
    (hne : cs ≠ []) : ∃ ds, DigitRun cs ds := by
  have hfirst {c : Char} {more : List Char} (hc : inRun c = true)
      (hfit : underscoresFit false ((c :: more).map toAscii) = true) :
      (∃ d, digitValue? c = some d) ∧ underscoresFit true (more.map toAscii) = true := by
    rw [inRun, Bool.or_eq_true, beq_iff_eq] at hc
    rcases hc with hc | rfl
    · obtain ⟨d, hd⟩ := exists_digitValue? hc
      rw [List.map_cons, underscoresFit_cons (toAscii_ne_underscore hd), hc] at hfit
      exact ⟨⟨d, hd⟩, hfit⟩
    · exact absurd hfit Bool.false_ne_true
  induction cs using List.twoStepInduction with
  | nil => exact absurd rfl hne
  | singleton c =>
    obtain ⟨⟨d, hd⟩, -⟩ := hfirst (hcs c List.mem_cons_self) hfit
    exact ⟨[d], .last hd⟩
  | cons_cons c c' cs ih ih' =>
    rw [List.forall_mem_cons, List.forall_mem_cons] at hcs
    obtain ⟨hc, hc', hcs⟩ := hcs
    rw [List.cons_append, List.cons_append] at hfit
    obtain ⟨⟨d, hd⟩, hfit⟩ := hfirst hc hfit
    by_cases hmark : c' = '_'
    · subst hmark
      -- Behind the underscore stands a digit, which belongs to the run.
      have hmark : toAscii '_' = '_' := rfl
      rw [List.map_cons, hmark, underscoresFit_between, Bool.and_eq_true] at hfit
      obtain ⟨hdigit, hfit⟩ := hfit
      have hne : cs ≠ [] := by
        rintro rfl
        cases rest with
        | nil => exact absurd hdigit Bool.false_ne_true
        | cons c'' rest =>
          have hother := (inRun_eq_false_iff.mp (hrest c'' rfl)).1
          exact absurd (hother.symm.trans hdigit) Bool.false_ne_true
      obtain ⟨ds, hds⟩ := ih hcs hfit hne
      exact ⟨_, .grouped hd hds⟩
    · have hne : toAscii c' ≠ '_' := by
        rwa [ne_eq, toAscii_eq_iff (by decide)]
      have hfit : underscoresFit false ((c' :: cs ++ rest).map toAscii) = true := by
        rw [List.map_cons, underscoresFit_cons hne] at hfit
        rwa [List.cons_append, List.map_cons, underscoresFit_cons hne]
      obtain ⟨ds, hds⟩ := ih' c' (List.forall_mem_cons.mpr ⟨hc', hcs⟩) hfit (List.cons_ne_nil _ _)
      exact ⟨_, .digit hd hds⟩

/-- A text in which underscores fit starts with a run of digits, unless none of its kind is at its
front. -/
theorem exists_run {cs : List Char} (hfit : underscoresFit false (cs.map toAscii) = true) :
    ∃ run rest, cs = run ++ rest ∧ (run = [] ∨ ∃ ds, DigitRun run ds) ∧ EndsRun rest ∧
      underscoresFit false (rest.map toAscii) = true := by
  have hends : EndsRun (cs.dropWhile inRun) := by
    intro c hc
    have hhead := List.head?_dropWhile_not inRun cs
    rw [hc] at hhead
    simpa using hhead
  have hsplit : cs.takeWhile inRun ++ cs.dropWhile inRun = cs := List.takeWhile_append_dropWhile
  refine ⟨_, _, hsplit.symm, ?_⟩
  by_cases hnil : cs.takeWhile inRun = []
  · rw [hnil, List.nil_append] at hsplit
    exact ⟨.inl hnil, hends, hsplit.symm ▸ hfit⟩
  · obtain ⟨ds, hds⟩ := exists_digitRun (fun _ hc => List.mem_takeWhile_imp hc) hends
      (hsplit.symm ▸ hfit) hnil
    refine ⟨.inr ⟨ds, hds⟩, hends, ?_⟩
    rw [← hsplit, List.map_append, hds.underscoresFit_append] at hfit
    cases hrest : cs.dropWhile inRun with
    | nil => rfl
    | cons c rest =>
      rw [hrest] at hfit hends
      rw [List.map_cons, underscoresFit_cons (inRun_eq_false_iff.mp (hends c rfl)).2] at hfit ⊢
      exact hfit

/-- A text in which underscores fit starts with a sign, or none is read at its front. -/
theorem exists_sign {cs : List Char} (hfit : underscoresFit false (cs.map toAscii) = true) :
    ∃ sign rest negative, cs = sign ++ rest ∧ SignText sign negative ∧
      readSign (bare cs) = (negative, bare rest) ∧
      underscoresFit false (rest.map toAscii) = true := by
  by_cases hminus : cs.head? = some '-'
  · obtain ⟨rest, rfl⟩ := List.head?_eq_some_iff.mp hminus
    exact ⟨_, rest, true, rfl, .minus, rfl, hfit⟩
  · by_cases hplus : cs.head? = some '+'
    · obtain ⟨rest, rfl⟩ := List.head?_eq_some_iff.mp hplus
      exact ⟨_, rest, false, rfl, .plus, rfl, hfit⟩
    · refine ⟨_, cs, false, rfl, .absent, ?_, hfit⟩
      refine SignText.absent.readSign fun c hc => ?_
      change c ∈ (bare cs).head? at hc
      cases cs with
      | nil => exact nomatch hc
      | cons c' rest =>
        have hmark : toAscii c' ≠ '_' := by
          intro heq
          rw [List.map_cons, heq] at hfit
          exact absurd hfit Bool.false_ne_true
        rw [bare_cons hmark] at hc
        obtain rfl := Option.some.inj hc
        refine ⟨fun heq => hplus ?_, fun heq => hminus ?_⟩ <;>
        · rw [toAscii_eq_iff (by decide)] at heq
          rw [heq, List.head?_cons]

theorem inRun_of_all_isDigit {cs : List Char} (h : (bare cs).all Char.isDigit = true) :
    ∀ c ∈ cs, inRun c = true := by
  intro c hc
  by_cases hmark : toAscii c = '_'
  · rw [toAscii_eq_iff (by decide)] at hmark
    rw [hmark]
    rfl
  · have hdigit : (toAscii c).isDigit = true := List.all_eq_true.mp h _
      (List.mem_filter.mpr ⟨List.mem_map_of_mem hc, by simpa using hmark⟩)
    rw [inRun, hdigit, Bool.true_or]

/-- Only the text of an exponent is read as one. -/
theorem exponentText_of_readExponent {cs : List Char} {n : Int} (hends : EndsRun cs)
    (hfit : underscoresFit false (cs.map toAscii) = true)
    (h : readExponent (bare cs) = some n) : ExponentText cs n := by
  cases cs with
  | nil =>
    obtain rfl := Option.some.inj h
    exact .absent
  | cons mark more =>
    obtain ⟨hdigit, hmark⟩ := inRun_eq_false_iff.mp (hends mark rfl)
    rw [List.map_cons, underscoresFit_cons hmark, hdigit] at hfit
    obtain ⟨sign, rest, negative, rfl, hsign, hread, hfit⟩ := exists_sign hfit
    rw [bare_cons hmark, readExponent, hread] at h
    dsimp only at h
    split at h
    · next hcond =>
      rw [Bool.and_eq_true, Bool.and_eq_true, Bool.or_eq_true, beq_iff_eq, beq_iff_eq,
        toAscii_eq_iff (by decide), toAscii_eq_iff (by decide)] at hcond
      obtain ⟨⟨hcond, hne⟩, hall⟩ := hcond
      have hrest : rest ≠ [] := by
        rintro rfl
        exact absurd hne Bool.false_ne_true
      obtain ⟨ds, hds⟩ := @exists_digitRun _ [] (inRun_of_all_isDigit hall)
        (fun _ hc => nomatch hc) ((List.append_nil rest).symm ▸ hfit) hrest
      obtain rfl := Option.some.inj h
      rw [hds.bare_eq, digitsValue_asciiDigits hds.lt]
      exact .marked hcond hsign hds
    · cases h

/-- Behind the digits of a number, only the text of an exponent is read. -/
theorem Significand.exists_exponentText {digits behind : List Char} {ds : List Nat} {places : Nat}
    {negative : Bool} {x : Double} (hdigits : Significand digits ds places)
    (hends : EndsRun behind) (hpoint : '.' ∈ digits ∨ ∀ c ∈ (bare behind).head?, c ≠ '.')
    (hfit : underscoresFit false (behind.map toAscii) = true)
    (h : Number.readDecimal negative (bare (digits ++ behind)) = some x) :
    ∃ exponent, ExponentText behind exponent := by
  rw [bare_append, hdigits.readDecimal negative hends.head_bare hpoint, Option.map_eq_some_iff] at h
  obtain ⟨exponent, hexponent, -⟩ := h
  exact ⟨exponent, exponentText_of_readExponent hends hfit hexponent⟩

/-- Only the digits of a number and the text of an exponent are read as a decimal number. -/
theorem exists_significand {cs : List Char} {negative : Bool} {x : Double}
    (hfit : underscoresFit false (cs.map toAscii) = true)
    (h : readDecimal negative (bare cs) = some x) :
    ∃ digits behind ds places exponent, cs = digits ++ behind ∧ Significand digits ds places ∧
      ExponentText behind exponent := by
  obtain ⟨run, rest, rfl, hrun, hends, hrest⟩ := exists_run hfit
  by_cases hpoint : ∃ after, rest = '.' :: after
  · obtain ⟨after, rfl⟩ := hpoint
    obtain ⟨more, behind, rfl, hmore, hends', hbehind⟩ := @exists_run after hrest
    rcases hrun with rfl | ⟨ds, hds⟩ <;> rcases hmore with rfl | ⟨es, hes⟩
    · -- A point alone is no number.
      have hnone : readDecimal negative (bare ('.' :: behind)) = none := by
        refine readDecimal_eq_none negative (by rintro c ⟨⟩; rfl) fun after hafter => ?_
        obtain rfl := List.tail_eq_of_cons_eq hafter
        exact hends'.head_bare
      exact absurd (hnone.symm.trans h) nofun
    · have hdigits : Significand ('.' :: more) es es.length := .fraction hes
      obtain ⟨exponent, hexponent⟩ := hdigits.exists_exponentText hends' (.inl (by simp)) hbehind h
      exact ⟨_, behind, _, _, exponent, rfl, hdigits, hexponent⟩
    · have hdigits : Significand (run ++ ['.']) ds 0 := .point hds
      rw [List.nil_append, ← List.singleton_append, ← List.append_assoc] at h
      obtain ⟨exponent, hexponent⟩ := hdigits.exists_exponentText hends' (.inl (by simp)) hbehind h
      exact ⟨_, behind, _, _, exponent, by simp, hdigits, hexponent⟩
    · have hdigits : Significand (run ++ '.' :: more) (ds ++ es) es.length := .both hds hes
      rw [← List.cons_append, ← List.append_assoc] at h
      obtain ⟨exponent, hexponent⟩ := hdigits.exists_exponentText hends' (.inl (by simp)) hbehind h
      exact ⟨_, behind, _, _, exponent, by simp, hdigits, hexponent⟩
  · have hhead : ∀ c ∈ (bare rest).head?, c ≠ '.' := by
      cases rest with
      | nil => exact fun _ hc => nomatch hc
      | cons c rest =>
        rw [bare_cons (inRun_eq_false_iff.mp (hends c rfl)).2]
        rintro c' ⟨⟩ heq
        rw [toAscii_eq_iff (by decide)] at heq
        exact hpoint ⟨rest, by rw [heq]⟩
    rcases hrun with rfl | ⟨ds, hds⟩
    · have hnone : readDecimal negative (bare rest) = none := by
        refine readDecimal_eq_none negative hends.head_bare fun after hafter => ?_
        exact absurd rfl (hhead '.' (by rw [hafter]; rfl))
      exact absurd (hnone.symm.trans h) nofun
    · have hdigits : Significand run ds 0 := .whole hds
      obtain ⟨exponent, hexponent⟩ := hdigits.exists_exponentText hends (.inr hhead) hrest h
      exact ⟨_, rest, _, _, exponent, rfl, hdigits, hexponent⟩

/-- Only a decimal number and the words for infinity and for a NaN are read as a number. -/
theorem exists_decimalText {cs : List Char} {x : Double}
    (hfit : underscoresFit false (cs.map toAscii) = true) (h : readNumber (bare cs) = some x)
    (hfinite : x.isFinite = true) :
    ∃ negative coefficient exponent, DecimalText cs negative coefficient exponent := by
  obtain ⟨sign, rest, negative, rfl, hsign, hread, hfit⟩ := exists_sign hfit
  rw [readNumber, hread] at h
  dsimp only at h
  split at h
  · cases h
    exact absurd hfinite Bool.false_ne_true
  split at h
  · cases h
    exact absurd hfinite Bool.false_ne_true
  · obtain ⟨digits, behind, ds, places, exponent, rfl, hdigits, hbehind⟩ :=
      exists_significand hfit h
    exact ⟨negative, _, _, .parts hsign hdigits hbehind⟩

section

variable {sign digits behind body : List Char} {negative : Bool} {ds : List Nat} {places : Nat}
  {coefficient : Nat} {exponent : Int}

theorem DigitRun.inked (h : DigitRun digits ds) : ∀ c ∈ digits, isBlank c = false := by
  have hdigit {c : Char} {d : Nat} (hc : digitValue? c = some d) : isBlank c = false := by
    rw [Bool.eq_false_iff]
    intro hblank
    rw [digitValue?_of_isBlank hblank] at hc
    cases hc
  induction h with
  | last hc => simpa using hdigit hc
  | digit hc _ ih => exact List.forall_mem_cons.mpr ⟨hdigit hc, ih⟩
  | grouped hc _ ih =>
    exact List.forall_mem_cons.mpr ⟨hdigit hc, List.forall_mem_cons.mpr ⟨by decide, ih⟩⟩

theorem SignText.inked (h : SignText sign negative) : ∀ c ∈ sign, isBlank c = false := by
  cases h with
  | absent => exact fun _ hc => nomatch hc
  | plus | minus => exact List.forall_mem_singleton.mpr (by decide)

/-- No blank character stands within a decimal number. -/
theorem DecimalText.inked (h : DecimalText body negative coefficient exponent) :
    ∀ c ∈ body, isBlank c = false := by
  cases h with
  | @parts sign digits behind _ ds places exponent hsign hdigits hbehind =>
    rw [List.forall_mem_append, List.forall_mem_append]
    refine ⟨hsign.inked, ?_, ?_⟩
    · cases hdigits with
      | whole h => exact h.inked
      | point h =>
        exact List.forall_mem_append.mpr ⟨h.inked, List.forall_mem_singleton.mpr (by decide)⟩
      | fraction h => exact List.forall_mem_cons.mpr ⟨by decide, h.inked⟩
      | both h h' =>
        exact List.forall_mem_append.mpr ⟨h.inked, List.forall_mem_cons.mpr ⟨by decide, h'.inked⟩⟩
    · cases hbehind with
      | absent => exact fun _ hc => nomatch hc
      | marked hmark hsign h =>
        refine List.forall_mem_cons.mpr ⟨?_, List.forall_mem_append.mpr ⟨hsign.inked, h.inked⟩⟩
        rcases hmark with rfl | rfl <;> decide

/-- Nothing but the decimal number is left when blank characters around it are trimmed away. -/
theorem DecimalText.trim_eq (h : DecimalText body negative coefficient exponent)
    {front back : List Char} (hfront : Blank front) (hback : Blank back) :
    trim (front ++ (body ++ back)) = body := by
  have hne : body ≠ [] := by
    rintro rfl
    have hread : some _ = none := h.readNumber.symm
    cases hread
  have htrim : trim body = body := trim_eq_self
    (fun c hc => h.inked c (List.mem_of_mem_head? hc))
    (fun c hc => h.inked c (List.mem_of_mem_getLast? hc))
  have htrimmed : Trimmed body := htrim ▸ trimmed_trim (by rwa [htrim])
  rw [← List.append_assoc, trim_append_blank _ hback, htrimmed.trim_append,
    List.dropWhile_eq_nil_iff.mpr hfront, List.nil_append]

end

/-- Trimming a text as ASCII takes nothing from a text that is trimmed already. -/
theorem readLiberal_trim (cs : List Char) : readLiberal (trim cs) =
    if underscoresFit false ((trim cs).map toAscii) then readNumber (bare (trim cs)) else none := by
  have hsame {ds : List Char} (h : ∀ c ∈ ds.head?, isBlank c = false) :
      (ds.map toAscii).dropWhile isAsciiSpace = ds.map toAscii := by
    cases ds with
    | nil => rfl
    | cons c rest =>
      refine List.dropWhile_cons_of_neg fun hspace => ?_
      exact Bool.eq_false_iff.mp (h c rfl) (isBlank_of_isAsciiSpace hspace)
  have htrim : trimBy isAsciiSpace ((trim cs).map toAscii) = (trim cs).map toAscii := by
    by_cases hnil : trim cs = []
    · rw [hnil]
      rfl
    have htrimmed := trimmed_trim hnil
    have hlast : ∀ c ∈ (trim cs).reverse.head?, isBlank c = false := by
      rw [List.head?_reverse]
      exact htrimmed.last_inked
    rw [trimBy, trimFront, trimBack, hsame htrimmed.head_inked, ← List.map_reverse, hsame hlast,
      List.map_reverse, List.reverse_reverse]
  rw [readLiberal, htrim]
  rfl

theorem readLiberal_of_numeral {cs : List Char} {v : ℚ} (h : Numeral cs v) :
    if |v| < Double.overflow then ∃ x, x.Nearest v ∧ readLiberal (trim cs) = some x
    else ∃ negative, readLiberal (trim cs) = some (.infinity negative) := by
  cases h with
  | @decimal front body back negative coefficient exponent hfront hback hbody =>
    have hread : readLiberal (trim (front ++ (body ++ back))) =
        some (Double.ofDecimal negative coefficient exponent) := by
      rw [readLiberal_trim, hbody.trim_eq hfront hback, if_pos hbody.fits, hbody.readNumber]
    have hnearest := Double.ofDecimal_nearest negative coefficient exponent
    have hnonneg : 0 ≤ (coefficient : ℚ) * 10 ^ exponent :=
      mul_nonneg (Nat.cast_nonneg _) (zpow_nonneg (by norm_num) exponent)
    rw [Double.abs_signed, abs_of_nonneg hnonneg]
    split at hnearest
    · next hless => rw [if_pos hless]; exact ⟨_, hnearest, hread⟩
    · next hmore => rw [if_neg hmore]; exact ⟨negative, hnearest ▸ hread⟩

theorem not_numeral_of_none {cs : List Char} (h : readLiberal (trim cs) = none) (v : ℚ) :
    ¬ Numeral cs v := by
  intro hnumeral
  have hread := readLiberal_of_numeral hnumeral
  rw [h] at hread
  split at hread
  · obtain ⟨x, -, hx⟩ := hread
    cases hx
  · obtain ⟨negative, hx⟩ := hread
    cases hx

theorem exists_numeral {cs : List Char} {x : Double} (h : readLiberal (trim cs) = some x)
    (hfinite : x.isFinite = true) : ∃ v, Numeral cs v := by
  obtain ⟨front, back, hcs, hfront, hback⟩ := exists_blank_trim_blank cs
  rw [readLiberal_trim] at h
  split at h
  · next hfit =>
    obtain ⟨negative, coefficient, exponent, hbody⟩ := exists_decimalText hfit h hfinite
    rw [hcs]
    exact ⟨_, .decimal hfront hback hbody⟩
  · cases h

/-- Nothing, a point, or a point with zeros behind it. -/
inductive ZeroFraction : List Char → Prop
  | absent : ZeroFraction []
  | point : ZeroFraction ['.']
  | zeros {cs : List Char} {ds : List Nat} (h : DigitRun cs ds) (hzero : ∀ d ∈ ds, d = 0) :
      ZeroFraction ('.' :: cs)

/-- The decimal text of an integer between blank characters. There may be a sign, zeros in front,
underscores between the digits, and a fraction of zeros. -/
inductive IntegerText : List Char → Int → Prop
  | parts {front sign digits fraction back : List Char} {negative : Bool} {ds : List Nat}
      (hfront : Blank front) (hsign : SignText sign negative) (hdigits : DigitRun digits ds)
      (hfraction : ZeroFraction fraction) (hback : Blank back) :
      IntegerText (front ++ (sign ++ (digits ++ fraction) ++ back))
        (if negative then -(ofDigits ds : Int) else ofDigits ds)

theorem ofDigits_append_zeros (ds : List Nat) {es : List Nat} (h : ∀ e ∈ es, e = 0) :
    ofDigits (ds ++ es) = ofDigits ds * 10 ^ es.length := by
  have hzero : Nat.ofDigits 10 es.reverse = 0 := by
    rw [List.eq_replicate_of_mem h, List.reverse_replicate, Nat.ofDigits_replicate_zero]
  rw [ofDigits, ofDigits, List.reverse_append, Nat.ofDigits_append, hzero, List.length_reverse,
    Nat.zero_add, Nat.mul_comm]

/-- The text of an integer is a numeral, and its exact value is the integer. -/
theorem IntegerText.numeral {cs : List Char} {n : Int} (h : IntegerText cs n) :
    Numeral cs n := by
  cases h with
  | @parts front sign digits fraction back negative ds hfront hsign hdigits hfraction hback =>
    have hvalue : ((if negative then -(ofDigits ds : Int) else ofDigits ds : Int) : ℚ) =
        Double.signed negative (ofDigits ds) := by
      cases negative <;> simp [Double.signed]
    have hnumeral {es : List Nat} {places : Nat}
        (hsignificand : Significand (digits ++ fraction) es places)
        (hes : (ofDigits es : ℚ) = ofDigits ds * 10 ^ places) :
        Numeral (front ++ (sign ++ (digits ++ fraction) ++ back))
          (Double.signed negative (ofDigits ds)) := by
      have hdecimal := Numeral.decimal hfront hback (.parts hsign hsignificand .absent)
      rw [List.append_nil, hes, zero_sub, mul_assoc, ← zpow_natCast, ← zpow_add₀ (by norm_num),
        add_neg_cancel, zpow_zero, mul_one] at hdecimal
      exact hdecimal
    rw [hvalue]
    cases hfraction with
    | absent =>
      refine @hnumeral ds 0 ?_ (by rw [pow_zero, mul_one])
      rw [List.append_nil]
      exact .whole hdigits
    | point => exact hnumeral (.point hdigits) (by rw [pow_zero, mul_one])
    | zeros hzeros hzero =>
      exact hnumeral (.both hdigits hzeros) (by rw [ofDigits_append_zeros _ hzero]; push_cast; rfl)

/-- ASCII digits are a run of digits, and stand for the number that they are read as. -/
theorem exists_digitRun_of_isDigit {cs : List Char} (hne : cs ≠ [])
    (h : ∀ c ∈ cs, c.isDigit = true) : ∃ ds, DigitRun cs ds ∧ ofDigits ds = digitsValue cs := by
  have hvalue {c : Char} (hc : c.isDigit = true) :
      digitValue? c = some (c.toNat - 48) ∧ Char.ofNat (48 + (c.toNat - 48)) = c := by
    have hbounds := bounds_of_isDigit hc
    have hsum : 48 + (c.toNat - 48) = c.toNat := by omega
    exact ⟨(digitValue?_ascii (by omega)).trans (if_pos hc), by rw [hsum, Char.ofNat_toNat]⟩
  have hrun : DigitRun cs (cs.map fun c => c.toNat - 48) := by
    induction cs with
    | nil => exact absurd rfl hne
    | cons c rest ih =>
      rw [List.forall_mem_cons] at h
      cases rest with
      | nil => exact .last (hvalue h.1).1
      | cons c' rest => exact .digit (hvalue h.1).1 (ih (List.cons_ne_nil _ _) h.2)
  have hback : asciiDigits (cs.map fun c => c.toNat - 48) = cs := by
    rw [asciiDigits, List.map_map]
    exact (List.map_congr_left fun c hc => (hvalue (h c hc)).2).trans cs.map_id
  exact ⟨_, hrun, by rw [← digitsValue_asciiDigits hrun.lt, hback]⟩

/-- The plain text of an integer is one of its texts. -/
theorem integerText_toString (n : Int) : IntegerText (toString n).toList n := by
  obtain ⟨ds, hrun, hvalue⟩ := @exists_digitRun_of_isDigit (Nat.toDigits 10 n.natAbs)
    Nat.toDigits_ne_nil fun c hc => isDigit_of_mem_decimal hc
  rw [digitsValue_toDigits] at hvalue
  have hparts {sign : List Char} {negative : Bool} (hsign : SignText sign negative)
      (hn : (if negative then -(n.natAbs : Int) else n.natAbs) = n) :
      IntegerText (sign ++ Nat.toDigits 10 n.natAbs) n := by
    have hblank : Blank [] := fun _ hc => nomatch hc
    have hparts := IntegerText.parts hblank hsign hrun .absent hblank
    rwa [hvalue, hn, List.append_nil, List.append_nil, List.nil_append] at hparts
  rw [toList_toString]
  split
  · next hneg => exact hparts .minus (by rw [if_pos rfl]; omega)
  · next hneg => exact hparts .absent (by rw [if_neg Bool.false_ne_true]; omega)

end QueryGate.Number
