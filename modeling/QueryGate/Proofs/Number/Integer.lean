import Mathlib.Algebra.Group.Int.Defs
import Mathlib.Algebra.Group.Nat.Defs
import Mathlib.Data.List.TakeWhile
import QueryGate.Number.Double
import QueryGate.Number.Reading

/-!
# Signs and integers

A double at least zero is no NaN and not below zero; negative zero is one. Rounding a quotient
keeps its sign, and so do scaling and rounding to decimal places. The difference of finite doubles
is at least zero if the second is not the greater one.

An integer that was read from some text, however liberally, has no more digits than are converted.
So its plain decimal text is read again, and as the same integer.
-/

namespace QueryGate.Number.Double

structure AtLeastZero (x : Double) : Prop where
  isNumber : x ≠ .nan
  notNegative : x.isNegative = false

theorem atLeastZero_finite_iff {negative : Bool} {mantissa exponent : Nat} :
    (finite negative mantissa exponent).AtLeastZero ↔ negative = false ∨ mantissa = 0 := by
  constructor
  · intro h
    have hsign := h.notNegative
    cases negative with
    | false => exact .inl rfl
    | true => exact .inr (by simpa [isNegative] using hsign)
  · intro h
    refine ⟨by simp, ?_⟩
    rcases h with rfl | rfl
    · simp [isNegative]
    · simp [isNegative]

theorem atLeastZero_infinity_iff {negative : Bool} :
    (infinity negative).AtLeastZero ↔ negative = false := by
  constructor
  · exact AtLeastZero.notNegative
  · rintro rfl
    exact ⟨by simp, rfl⟩

theorem roundDiv_zero (den : Nat) : roundDiv 0 den = 0 := by
  unfold roundDiv
  simp

theorem atLeastZero_normalize (mantissa exponent : Nat) :
    (normalize false mantissa exponent).AtLeastZero := by
  have hcapped (m e : Nat) :
      (if maxExponent < e then infinity false else finite false m e).AtLeastZero := by
    split
    · exact atLeastZero_infinity_iff.mpr rfl
    · exact atLeastZero_finite_iff.mpr (.inl rfl)
  exact hcapped _ _

theorem normalize_zero (negative : Bool) : normalize negative 0 0 = finite negative 0 0 := by
  have hcarried : (0 = twoTo 53) = False := by simp [twoTo]
  simp [normalize, hcarried]

theorem atLeastZero_ofRatio {negative : Bool} {num : Nat} (den : Nat)
    (h : negative = false ∨ num = 0) : (ofRatio negative num den).AtLeastZero := by
  unfold ofRatio
  dsimp only
  rcases h with rfl | rfl
  · exact atLeastZero_normalize _ _
  · rw [Nat.zero_mul, Nat.zero_div, Nat.log2_zero, Nat.zero_sub, roundDiv_zero, normalize_zero]
    exact atLeastZero_finite_iff.mpr (.inr rfl)

theorem AtLeastZero.scale {x : Double} (h : x.AtLeastZero) (factor : Nat) :
    (x.scale factor).AtLeastZero := by
  cases x with
  | nan => exact absurd rfl h.isNumber
  | infinity negative => exact h
  | finite negative mantissa exponent =>
    simp only [Double.scale]
    refine atLeastZero_ofRatio _ ((atLeastZero_finite_iff.mp h).imp_right ?_)
    intro hzero
    simp [hzero]

theorem AtLeastZero.roundTo {x : Double} (h : x.AtLeastZero) (places : Nat) :
    (x.roundTo places).AtLeastZero := by
  cases x with
  | nan => exact absurd rfl h.isNumber
  | infinity negative => exact h
  | finite negative mantissa exponent =>
    simp only [Double.roundTo]
    refine atLeastZero_ofRatio _ ?_
    refine (atLeastZero_finite_iff.mp h).imp_right fun hzero => ?_
    rw [inPlaces, units, hzero, Nat.zero_mul, Nat.zero_mul, roundDiv_zero]

theorem atLeastZero_sub {x y : Double} (hx : x.isFinite = true) (hy : y.isFinite = true)
    (h : y.signedUnits ≤ x.signedUnits) : (x.sub y).AtLeastZero := by
  cases x with
  | nan => cases hx
  | infinity negative => cases hx
  | finite a m e =>
    cases y with
    | nan => cases hy
    | infinity negative => cases hy
    | finite b m' e' =>
      unfold sub
      dsimp only
      split
      · exact atLeastZero_finite_iff.mpr (.inr rfl)
      · refine atLeastZero_ofRatio _ (.inl ?_)
        have hdifference : ¬ signedUnits (finite a m e) - signedUnits (finite b m' e') < 0 := by
          omega
        simpa using hdifference

end QueryGate.Number.Double

namespace QueryGate.Number

open QueryGate.Text

/-- The decimal text of an integer: its digits, behind a sign if it is negative. -/
theorem toList_toString (n : Int) :
    (toString n).toList = (if n < 0 then ['-'] else []) ++ Nat.toDigits 10 n.natAbs := by
  cases n with
  | ofNat m =>
    have hsign : ¬ Int.ofNat m < 0 := by simp
    rw [if_neg hsign]
    exact Nat.toList_repr
  | negSucc m =>
    rw [if_pos (Int.negSucc_lt_zero m)]
    change ("-" ++ Nat.repr (m + 1)).toList = _
    rw [String.toList_append, Nat.toList_repr]
    rfl

theorem bounds_of_isDigit {c : Char} (h : c.isDigit = true) :
    48 ≤ c.toNat ∧ c.toNat ≤ 57 := Char.isDigit_iff_toNat.mp h

theorem isDigit_of_mem_decimal {m : Nat} {c : Char} (h : c ∈ Nat.toDigits 10 m) :
    c.isDigit = true := Nat.isDigit_of_mem_toDigits (by omega) (by omega) h

theorem digitsValue_toDigits (m : Nat) : digitsValue (Nat.toDigits 10 m) = m :=
  Nat.ofDigitChars_ten_toDigits

private theorem foldl_digits_lt {cs : List Char} (h : ∀ c ∈ cs, c.isDigit = true) (front : Nat) :
    cs.foldl (fun n c => 10 * n + (c.toNat - 48)) front < (front + 1) * 10 ^ cs.length := by
  induction cs generalizing front with
  | nil => simp
  | cons c cs ih =>
    rw [List.forall_mem_cons] at h
    have hdigit : c.toNat - 48 ≤ 9 := by
      have hbound := bounds_of_isDigit h.1
      omega
    calc cs.foldl (fun n c => 10 * n + (c.toNat - 48)) (10 * front + (c.toNat - 48))
        < (10 * front + (c.toNat - 48) + 1) * 10 ^ cs.length := ih h.2 _
      _ ≤ ((front + 1) * 10) * 10 ^ cs.length := Nat.mul_le_mul_right _ (by omega)
      _ = (front + 1) * 10 ^ (c :: cs).length := by
        rw [List.length_cons, Nat.pow_succ, Nat.mul_assoc, Nat.mul_comm 10]

theorem digitsValue_lt {cs : List Char} (h : ∀ c ∈ cs, c.isDigit = true) :
    digitsValue cs < 10 ^ cs.length := by
  have hlt := foldl_digits_lt h 0
  rwa [Nat.zero_add, Nat.one_mul] at hlt

theorem tenTo_eq (n : Nat) : tenTo n = 10 ^ n := rfl

theorem fits_iff {n : Int} : fits n = true ↔ n.natAbs < 10 ^ maxDigits := by
  rw [fits, decide_eq_true_iff]
  exact Nat.length_toDigits_le_iff (by omega) (by decide)

theorem fits_pow_maxDigits : fits (10 ^ maxDigits) = false := by
  rw [Bool.eq_false_iff, Ne, fits_iff]
  simp [Int.natAbs_pow]

theorem length_toDigits_le_maxDigits {n : Int} (h : fits n = true) :
    (Nat.toDigits 10 n.natAbs).length ≤ maxDigits := of_decide_eq_true h

theorem fits_of_lt_hundred {n : Int} (h : n.natAbs < 100) : fits n = true := by
  have hpos := tenTo_pos 4298
  rw [fits_iff, maxDigits, ← tenTo_eq, tenTo_succ, tenTo_succ]
  omega

/-- An integer that was read has no more digits than are converted. -/
theorem natAbs_lt_of_readInteger {cs : List Char} {n : Int} (h : readInteger cs = .ok n) :
    n.natAbs < 10 ^ maxDigits := by
  unfold readInteger at h
  generalize readSign ((cs.map toAscii).dropWhile isAsciiSpace) = sign at h
  rcases sign with ⟨negative, body⟩
  dsimp only at h
  generalize hdigits : (body.takeWhile fun c => c.isDigit || c == '_').filter Char.isDigit = digits
    at h
  have hvalue : digitsValue digits < 10 ^ digits.length := by
    apply digitsValue_lt
    rw [← hdigits]
    exact fun c hc => (List.mem_filter.mp hc).2
  split at h
  · cases h
  · split at h
    · cases h
    · next hlength =>
      split at h
      · cases h
      · have hn : n.natAbs = digitsValue digits := by
          obtain rfl := Except.ok.inj h
          cases negative with
          | true => exact Int.natAbs_neg _
          | false => rfl
        rw [hn]
        exact hvalue.trans_le (Nat.pow_le_pow_right (by omega) (by omega))

private theorem toAscii_of_isDigit {c : Char} (h : c.isDigit = true) : toAscii c = c := by
  have hbound := bounds_of_isDigit h
  exact if_pos (by omega)

private theorem isAsciiSpace_of_isDigit {c : Char} (h : c.isDigit = true) :
    isAsciiSpace c = false := by
  have hbound := bounds_of_isDigit h
  have hblank : c ≠ ' ' := by
    rintro rfl
    exact absurd h (by decide)
  simp [isAsciiSpace, hblank]
  omega

theorem readSign_of_isDigit {cs : List Char} (h : ∀ c ∈ cs, c.isDigit = true) :
    readSign cs = (false, cs) := by
  cases cs with
  | nil => rfl
  | cons c cs =>
    have hc := h c List.mem_cons_self
    unfold readSign
    split
    · next heq =>
      obtain rfl : c = '-' := (List.cons.inj heq).1
      exact absurd hc (by decide)
    · next heq =>
      obtain rfl : c = '+' := (List.cons.inj heq).1
      exact absurd hc (by decide)
    · rfl

private theorem underscoresFit_of_isDigit {cs : List Char} (h : ∀ c ∈ cs, c.isDigit = true)
    (afterDigit : Bool) : underscoresFit afterDigit cs = true := by
  induction cs generalizing afterDigit with
  | nil => rfl
  | cons c cs ih =>
    rw [List.forall_mem_cons] at h
    have hc : c ≠ '_' := by
      rintro rfl
      exact absurd h.1 (by decide)
    rw [underscoresFit]
    · exact ih h.2 _
    · exact fun heq => hc heq

/-- The text behind the sign is read as its digits say. -/
private theorem readInteger_of_body {cs digits : List Char} {negative : Bool}
    (hbody : readSign ((cs.map toAscii).dropWhile isAsciiSpace) = (negative, digits))
    (hne : digits ≠ []) (hdigits : ∀ c ∈ digits, c.isDigit = true)
    (hlength : digits.length ≤ maxDigits) :
    readInteger cs =
      .ok (if negative then -(digitsValue digits : Int) else (digitsValue digits : Int)) := by
  have hrun : digits.takeWhile (fun c => c.isDigit || c == '_') = digits :=
    List.takeWhile_eq_self_iff.mpr fun c hc => by simp [hdigits c hc]
  have hrest : digits.dropWhile (fun c => c.isDigit || c == '_') = [] :=
    List.dropWhile_eq_nil_iff.mpr fun c hc => by simp [hdigits c hc]
  have hfilter : digits.filter Char.isDigit = digits := List.filter_eq_self.mpr hdigits
  unfold readInteger
  rw [hbody]
  dsimp only
  rw [hrun, hrest, hfilter, underscoresFit_of_isDigit hdigits, if_neg (by simpa using hne),
    if_neg (by omega), if_neg (by simp)]

theorem readInteger_toString {n : Int} (h : n.natAbs < 10 ^ maxDigits) :
    readInteger (toString n).toList = .ok n := by
  have hdigits : ∀ c ∈ Nat.toDigits 10 n.natAbs, c.isDigit = true :=
    fun c hc => isDigit_of_mem_decimal hc
  have hlength : (Nat.toDigits 10 n.natAbs).length ≤ maxDigits :=
    length_toDigits_le_maxDigits (fits_iff.mpr h)
  have hascii : (Nat.toDigits 10 n.natAbs).map toAscii = Nat.toDigits 10 n.natAbs :=
    (List.map_congr_left fun c hc => toAscii_of_isDigit (hdigits c hc)).trans (List.map_id' _)
  rw [toList_toString]
  by_cases hsign : n < 0
  · have hbody : readSign ((('-' :: Nat.toDigits 10 n.natAbs).map toAscii).dropWhile
        isAsciiSpace) = (true, Nat.toDigits 10 n.natAbs) := by
      rw [List.map_cons, hascii]
      rfl
    rw [if_pos hsign, List.singleton_append,
      readInteger_of_body hbody Nat.toDigits_ne_nil hdigits hlength, if_pos rfl,
      digitsValue_toDigits]
    congr 1
    omega
  · have hbody : readSign (((Nat.toDigits 10 n.natAbs).map toAscii).dropWhile isAsciiSpace) =
        (false, Nat.toDigits 10 n.natAbs) := by
      rw [hascii]
      cases hcs : Nat.toDigits 10 n.natAbs with
      | nil => exact absurd hcs Nat.toDigits_ne_nil
      | cons c cs =>
        rw [hcs] at hdigits
        have hc : isAsciiSpace c = false := isAsciiSpace_of_isDigit (hdigits c List.mem_cons_self)
        rw [List.dropWhile_cons_of_neg (by simp [hc])]
        exact readSign_of_isDigit hdigits
    rw [if_neg hsign, List.nil_append,
      readInteger_of_body hbody Nat.toDigits_ne_nil hdigits hlength, if_neg Bool.false_ne_true,
      digitsValue_toDigits]
    congr 1
    omega

theorem readInteger_toString_of_read {cs : List Char} {n : Int} (h : readInteger cs = .ok n) :
    readInteger (toString n).toList = .ok n :=
  readInteger_toString (natAbs_lt_of_readInteger h)

end QueryGate.Number
