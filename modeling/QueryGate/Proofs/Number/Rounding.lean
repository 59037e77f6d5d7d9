import Mathlib.Algebra.Order.Field.Rat
import Mathlib.Data.Rat.Floor
import Mathlib.Tactic.FieldSimp
import Mathlib.Tactic.Linarith
import Mathlib.Tactic.Positivity
import Mathlib.Tactic.Ring
import QueryGate.Proofs.Number.Integer

/-!
# Rounding to the nearest double

Every quotient of natural numbers, and so every decimal, is rounded to the double nearest to it,
ties to the even mantissa. From half a step beyond the greatest finite double on it is rounded to
infinity. The integers of at most 53 binary digits are doubles themselves, so that rounding leaves
them as they are; truncating a double takes the integer part of its exact value, toward zero.
-/

namespace QueryGate.Number

theorem twoTo_eq (n : Nat) : twoTo n = 2 ^ n := rfl

/-- The rounded quotient is at most one half away, and even if it is just that far away. -/
theorem roundDiv_near (num : Nat) {den : Nat} (h : 0 < den) :
    |(num : ℚ) / den - roundDiv num den| ≤ 1 / 2 ∧
      (|(num : ℚ) / den - roundDiv num den| = 1 / 2 → Even (roundDiv num den)) := by
  have hden : (0 : ℚ) < den := by exact_mod_cast h
  have hsplit : (num : ℚ) = den * (num / den : ℕ) + (num % den : ℕ) := by
    exact_mod_cast (Nat.div_add_mod num den).symm
  have hrest : ((num % den : ℕ) : ℚ) < den := by exact_mod_cast Nat.mod_lt num h
  have hbelow : |(num : ℚ) / den - (num / den : ℕ)| = (num % den : ℕ) / den := by
    rw [← abs_of_nonneg (by positivity : 0 ≤ ((num % den : ℕ) : ℚ) / den), hsplit]
    congr 1
    field_simp
    ring
  have habove : |(num : ℚ) / den - (num / den + 1 : ℕ)| = 1 - (num % den : ℕ) / den := by
    rw [abs_sub_comm, ← abs_of_nonneg (by rw [sub_nonneg, div_le_one hden]; exact hrest.le :
      0 ≤ 1 - ((num % den : ℕ) : ℚ) / den), hsplit]
    congr 1
    field_simp
    push_cast
    ring
  unfold roundDiv
  dsimp only
  generalize num % den = rest at hbelow habove
  split
  · next hless =>
    have hless : (rest : ℚ) / den < 1 / 2 := by
      rw [div_lt_iff₀ hden]
      have hcast : (2 * rest : ℚ) < den := by exact_mod_cast hless
      linarith
    rw [hbelow]
    exact ⟨hless.le, fun heq => absurd heq hless.ne⟩
  · next hless =>
    split
    · next hmore =>
      have hmore : 1 / 2 < (rest : ℚ) / den := by
        rw [lt_div_iff₀ hden]
        have hcast : (den : ℚ) < 2 * rest := by exact_mod_cast hmore
        linarith
      rw [habove]
      exact ⟨by linarith, fun heq => by linarith⟩
    · next hmore =>
      have hhalf : (rest : ℚ) / den = 1 / 2 := by
        rw [div_eq_iff hden.ne']
        have hcast : (2 * rest : ℚ) = den := by exact_mod_cast (by omega : 2 * rest = den)
        linarith
      split
      · next heven =>
        rw [hbelow, hhalf]
        exact ⟨le_refl _, fun _ => Nat.even_iff.mpr heven⟩
      · next hodd =>
        rw [habove, hhalf]
        exact ⟨by norm_num, fun _ => Nat.even_iff.mpr (by omega)⟩

namespace Double

/-- The finite doubles in the form in which they are stored: the mantissa has at most 53 binary
digits, and as many if the exponent is not zero. -/
inductive Canonical : Double → Prop
  | finite (negative : Bool) {mantissa exponent : Nat} (hmantissa : mantissa < 2 ^ 53)
      (hexponent : exponent ≤ maxExponent) (hnormal : exponent = 0 ∨ 2 ^ 52 ≤ mantissa) :
      Canonical (.finite negative mantissa exponent)

/-- The exact value of a finite double. -/
def value (x : Double) : ℚ := x.signedUnits / unitsPerOne

/-- The mantissa of a finite double. -/
def mantissa : Double → Nat
  | .finite _ mantissa _ => mantissa
  | _ => 0

/-- The double is nearest to a number, and its mantissa is even if another double is as near. -/
structure Nearest (v : ℚ) (x : Double) : Prop where
  canonical : x.Canonical
  least : ∀ y : Double, y.Canonical → |v - x.value| ≤ |v - y.value|
  even : ∀ y : Double, y.Canonical → |v - y.value| = |v - x.value| → y.value ≠ x.value →
    Even x.mantissa

/-- From this number on, numbers are nearer to what would be the next double than to the greatest
finite one, or as near. -/
def overflow : ℚ := 2 ^ 1024 - 2 ^ 970

/-- A number in units as it is rounded: the exponent that its integer part gives, and the mantissa
for this exponent. -/
structure Rounded (r : ℚ) (mantissa exponent : Nat) : Prop where
  below : r < 2 ^ (53 + exponent)
  above : exponent = 0 ∨ 2 ^ (52 + exponent) ≤ r
  near : |r / 2 ^ exponent - mantissa| ≤ 1 / 2
  even : |r / 2 ^ exponent - mantissa| = 1 / 2 → Even mantissa

theorem rounded_ratio (units : Nat) {den : Nat} (h : 0 < den) :
    let exponent := Nat.log2 (units / den) - 52
    Rounded ((units : ℚ) / den) (roundDiv units (den * twoTo exponent)) exponent := by
  intro exponent
  have hden : (0 : ℚ) < den := by exact_mod_cast h
  obtain ⟨hnear, heven⟩ := roundDiv_near units (Nat.mul_pos h (twoTo_pos exponent))
  have hscale : (units : ℚ) / den / 2 ^ exponent = units / (den * twoTo exponent : ℕ) := by
    rw [div_div, twoTo_eq]
    push_cast
    rfl
  refine ⟨?_, ?_, ?_, ?_⟩
  · have hfloor : units / den < 2 ^ (53 + exponent) :=
      Nat.lt_log2_self.trans_le (Nat.pow_le_pow_right (by omega) (by omega))
    rw [div_lt_iff₀ hden]
    have hless := (Nat.div_lt_iff_lt_mul h).mp hfloor
    exact_mod_cast hless
  · rcases Nat.eq_zero_or_pos exponent with hzero | hpos
    · exact .inl hzero
    · right
      have hne : units / den ≠ 0 := by
        intro hzero
        simp [exponent, hzero, Nat.log2_zero] at hpos
      have hfloor : 2 ^ (52 + exponent) ≤ units / den :=
        (Nat.pow_le_pow_right (by omega) (by omega)).trans (Nat.log2_self_le hne)
      rw [le_div_iff₀ hden]
      have hmore := (Nat.le_div_iff_mul_le h).mp hfloor
      exact_mod_cast hmore
  · rwa [hscale]
  · rwa [hscale]

/-- The units of a double are a multiple of the power of two, or fewer than every mantissa with all
its digits has at this exponent. -/
theorem Canonical.units_cases {x : Double} (h : x.Canonical) (exponent : Nat) :
    (∃ k, x.units = k * 2 ^ exponent) ∨ exponent ≠ 0 ∧ x.units < 2 ^ (52 + exponent) := by
  obtain ⟨negative, hmantissa, hexponent, hnormal⟩ := h
  rename_i mantissa own
  rw [units, twoTo_eq]
  rcases Nat.lt_or_ge own exponent with hless | hmore
  · refine .inr ⟨by omega, ?_⟩
    calc mantissa * 2 ^ own < 2 ^ 53 * 2 ^ own :=
          Nat.mul_lt_mul_of_pos_right hmantissa (by positivity)
      _ = 2 ^ (53 + own) := (Nat.pow_add ..).symm
      _ ≤ 2 ^ (52 + exponent) := Nat.pow_le_pow_right (by omega) (by omega)
  · refine .inl ⟨mantissa * 2 ^ (own - exponent), ?_⟩
    rw [Nat.mul_assoc, ← Nat.pow_add, Nat.sub_add_cancel hmore]

theorem abs_sub_mul_pow (r : ℚ) (k exponent : Nat) :
    |r - k * 2 ^ exponent| = |r / 2 ^ exponent - k| * 2 ^ exponent := by
  have hpower : (0 : ℚ) < 2 ^ exponent := by positivity
  rw [← abs_of_pos hpower, ← abs_mul, abs_of_pos hpower, sub_mul, div_mul_cancel₀ _ hpower.ne']

section

variable {r : ℚ} {mantissa exponent : Nat}

theorem Rounded.mantissa_le (h : Rounded r mantissa exponent) : mantissa ≤ 2 ^ 53 := by
  have hpower : (0 : ℚ) < 2 ^ exponent := by positivity
  have hbelow : r / 2 ^ exponent < 2 ^ 53 := by
    rw [div_lt_iff₀ hpower, ← pow_add]
    exact h.below
  have hnear := (abs_le.mp h.near).1
  have hless : (mantissa : ℚ) < (2 ^ 53 + 1 : ℕ) := by
    push_cast
    linarith
  exact Nat.lt_succ_iff.mp (by exact_mod_cast hless)

theorem Rounded.le_mantissa (h : Rounded r mantissa exponent) :
    exponent = 0 ∨ 2 ^ 52 ≤ mantissa := by
  refine h.above.imp_right fun habove => ?_
  have hpower : (0 : ℚ) < 2 ^ exponent := by positivity
  have habove : 2 ^ 52 ≤ r / 2 ^ exponent := by
    rw [le_div_iff₀ hpower, ← pow_add]
    exact habove
  have hnear := (abs_le.mp h.near).2
  have hmore : ((2 ^ 52 : ℕ) : ℚ) < (mantissa + 1 : ℕ) := by
    push_cast
    linarith
  exact Nat.lt_succ_iff.mp (by exact_mod_cast hmore)

/-- Among the multiples of the power of two, the rounded number is nearest. -/
theorem Rounded.nearest_multiple (h : Rounded r mantissa exponent) (k : Nat) :
    |r - mantissa * 2 ^ exponent| ≤ |r - k * 2 ^ exponent| ∧
      (|r - k * 2 ^ exponent| = |r - mantissa * 2 ^ exponent| → k ≠ mantissa → Even mantissa) := by
  have hpower : (0 : ℚ) < 2 ^ exponent := by positivity
  rw [abs_sub_mul_pow, abs_sub_mul_pow]
  obtain ⟨-, -, hnear, heven⟩ := h
  by_cases hk : k = mantissa
  · subst hk
    exact ⟨le_refl _, fun _ hne => absurd rfl hne⟩
  · -- Two natural numbers are one apart at least.
    have hapart : 1 ≤ |(k : ℚ) - mantissa| := by
      have hint : (1 : ℤ) ≤ |(k : ℤ) - mantissa| := Int.one_le_abs (by omega)
      exact_mod_cast hint
    have htriangle : |(k : ℚ) - mantissa| ≤
        |r / 2 ^ exponent - mantissa| + |r / 2 ^ exponent - k| := by
      calc |(k : ℚ) - mantissa| = |(r / 2 ^ exponent - mantissa) - (r / 2 ^ exponent - k)| := by
            ring_nf
        _ ≤ |r / 2 ^ exponent - mantissa| + |r / 2 ^ exponent - k| := abs_sub _ _
    refine ⟨mul_le_mul_of_nonneg_right (by linarith) hpower.le, fun heq _ => heven ?_⟩
    have hsame := mul_right_cancel₀ hpower.ne' heq
    linarith

/-- Among the doubles, the rounded number is nearest. -/
theorem Rounded.nearest_units (h : Rounded r mantissa exponent) {x : Double} (hx : x.Canonical) :
    |r - mantissa * 2 ^ exponent| ≤ |r - x.units| ∧
      (|r - x.units| = |r - mantissa * 2 ^ exponent| → x.units ≠ mantissa * 2 ^ exponent →
        Even mantissa) := by
  rcases hx.units_cases exponent with ⟨k, hk⟩ | ⟨hne, hless⟩
  · obtain ⟨hleast, heven⟩ := h.nearest_multiple k
    have hpower : 2 ^ exponent ≠ 0 := (Nat.two_pow_pos exponent).ne'
    rw [hk]
    push_cast
    exact ⟨hleast, fun heq hunits => heven heq fun hmantissa => hunits (by rw [hmantissa])⟩
  · -- The double lies below the least number that is rounded at this exponent.
    have habove : (2 : ℚ) ^ (52 + exponent) ≤ r := h.above.resolve_left hne
    have hbound := (h.nearest_multiple (2 ^ 52)).1
    rw [Nat.cast_pow, Nat.cast_ofNat, ← pow_add, abs_of_nonneg (sub_nonneg.mpr habove)] at hbound
    have hless : (x.units : ℚ) < 2 ^ (52 + exponent) := by exact_mod_cast hless
    have hstrict : |r - mantissa * 2 ^ exponent| < |r - x.units| :=
      lt_of_lt_of_le (by linarith) (le_abs_self _)
    exact ⟨hstrict.le, fun heq => absurd heq hstrict.ne'⟩

/-- A rounded number is a double unless it lies beyond them. -/
theorem Rounded.normalize_cases (h : Rounded r mantissa exponent) (negative : Bool) :
    mantissa * 2 ^ exponent < 2 ^ (53 + maxExponent) ∧
        (∃ m e, normalize negative mantissa exponent = .finite negative m e ∧
          (finite negative m e).Canonical ∧ m * 2 ^ e = mantissa * 2 ^ exponent ∧
          (Even mantissa → Even m)) ∨
      2 ^ (53 + maxExponent) ≤ mantissa * 2 ^ exponent ∧
        normalize negative mantissa exponent = .infinity negative := by
  have hle := h.mantissa_le
  have hnormal := h.le_mantissa
  rw [normalize, twoTo_eq, twoTo_eq, Nat.pow_add 2 53 maxExponent]
  -- Its value does not matter, and the power is not to be computed.
  generalize hgreatest : maxExponent = greatest
  by_cases hcarried : mantissa = 2 ^ 53
  · subst hcarried
    simp only [if_true]
    split
    · next hlarge =>
      exact .inr ⟨Nat.mul_le_mul_left _ (Nat.pow_le_pow_right (by omega) (by omega)), rfl⟩
    · next hsmall =>
      refine .inl ⟨Nat.mul_lt_mul_of_pos_left (Nat.pow_lt_pow_right (by omega) (by omega))
        (by positivity), _, _, rfl, .finite _ (by omega) (by omega) (by omega), ?_, fun _ => ?_⟩
      · rw [Nat.pow_succ]
        ring
      · exact ⟨2 ^ 51, by omega⟩
  · simp only [hcarried, if_false]
    split
    · next hlarge =>
      refine .inr ⟨?_, rfl⟩
      calc 2 ^ 53 * 2 ^ greatest = 2 ^ 52 * 2 ^ (greatest + 1) := by rw [Nat.pow_succ]; ring
        _ ≤ mantissa * 2 ^ exponent :=
          Nat.mul_le_mul (by omega) (Nat.pow_le_pow_right (by omega) (by omega))
    · next hsmall =>
      refine .inl ⟨?_, _, _, rfl, .finite _ (by omega) (by omega) (by omega), rfl, id⟩
      calc mantissa * 2 ^ exponent < 2 ^ 53 * 2 ^ exponent :=
            Nat.mul_lt_mul_of_pos_right (by omega) (by positivity)
        _ ≤ 2 ^ 53 * 2 ^ greatest :=
          Nat.mul_le_mul_left _ (Nat.pow_le_pow_right (by omega) (by omega))

/-- A number is rounded to less than an even number exactly if it is more than one half below. -/
theorem lt_even_iff {q : ℚ} {n limit : Nat} (hnear : |q - n| ≤ 1 / 2)
    (heven : |q - n| = 1 / 2 → Even n) (hlimit : Even limit) : n < limit ↔ q < limit - 1 / 2 := by
  obtain ⟨hlow, hhigh⟩ := abs_le.mp hnear
  constructor
  · intro hless
    have hnext : (n : ℚ) + 1 ≤ limit := by exact_mod_cast hless
    refine lt_of_le_of_ne (by linarith) fun heq => ?_
    -- A number in the middle would have been rounded up, to the even one.
    have hlast : (n : ℚ) + 1 = limit := by linarith
    have hsucc : n + 1 = limit := by exact_mod_cast hlast
    have hn : Even n := heven (by rw [abs_of_nonneg] <;> linarith)
    exact Nat.even_add_one.mp (hsucc ▸ hlimit) hn
  · intro hless
    have hcast : (n : ℚ) < limit := by linarith
    exact_mod_cast hcast

/-- The rounded number is below a power of two unless the number is within half a step of it. -/
theorem Rounded.lt_power_iff (h : Rounded r mantissa exponent) (greatest : Nat) :
    mantissa * 2 ^ exponent < 2 ^ (53 + greatest) ↔ r < (2 ^ 53 - 1 / 2) * 2 ^ greatest := by
  have hgreatest : (0 : ℚ) < 2 ^ greatest := by positivity
  rw [Nat.pow_add]
  rcases Nat.lt_trichotomy exponent greatest with hless | rfl | hmore
  · have hstep : (2 : ℚ) ^ exponent * 2 ≤ 2 ^ greatest := by
      rw [← pow_succ]
      exact pow_le_pow_right₀ (by norm_num) hless
    have hbelow := h.below
    rw [pow_add] at hbelow
    refine iff_of_true ?_ (by nlinarith)
    exact Nat.mul_lt_mul_of_le_of_lt h.mantissa_le (Nat.pow_lt_pow_right (by omega) hless)
      (by omega)
  · have hlimit := @lt_even_iff _ _ (2 ^ 53) h.near h.even ⟨2 ^ 52, by norm_num⟩
    rw [Nat.cast_pow, Nat.cast_ofNat, div_lt_iff₀ hgreatest] at hlimit
    rw [Nat.mul_lt_mul_right (Nat.two_pow_pos exponent), hlimit]
  · have hnormal := h.le_mantissa.resolve_left (by omega)
    have habove := h.above.resolve_left (by omega)
    refine iff_of_false ?_ ?_
    · rw [Nat.not_lt]
      calc 2 ^ 53 * 2 ^ greatest = 2 ^ 52 * 2 ^ (greatest + 1) := by rw [Nat.pow_succ]; ring
        _ ≤ mantissa * 2 ^ exponent :=
          Nat.mul_le_mul hnormal (Nat.pow_le_pow_right (by omega) hmore)
    · rw [not_lt]
      have hstep : (2 : ℚ) ^ greatest * 2 ≤ 2 ^ exponent := by
        rw [← pow_succ]
        exact pow_le_pow_right₀ (by norm_num) hmore
      rw [pow_add] at habove
      nlinarith

end

/-- A number with the sign turned if it is to be negative. -/
def signed (negative : Bool) (q : ℚ) : ℚ := if negative then -q else q

theorem unitsPerOne_pos : (0 : ℚ) < unitsPerOne := by
  exact_mod_cast twoTo_pos 1074

theorem abs_signed (negative : Bool) (q : ℚ) : |signed negative q| = |q| := by
  cases negative <;> simp [signed]

theorem abs_signed_sub (negative : Bool) (p q : ℚ) :
    |signed negative p - signed negative q| = |p - q| := by
  cases negative
  · rfl
  · rw [signed, signed, if_pos rfl, if_pos rfl, neg_sub_neg, abs_sub_comm]

theorem value_finite (negative : Bool) (mantissa exponent : Nat) :
    (finite negative mantissa exponent).value =
      signed negative ((mantissa * 2 ^ exponent : ℕ) / unitsPerOne) := by
  cases negative
  · rfl
  · rw [value, signed, if_pos rfl, signedUnits, Int.cast_neg, neg_div]
    rfl

theorem value_of_not_finite {x : Double} (h : x.isFinite = false) : x.value = 0 := by
  cases x with
  | finite => cases h
  | nan | infinity => exact zero_div _

theorem abs_value (x : Double) : |x.value| = x.units / unitsPerOne := by
  cases x with
  | finite negative mantissa exponent =>
    rw [value_finite, abs_signed, abs_of_nonneg (by positivity)]
    rfl
  | nan | infinity => rw [value_of_not_finite rfl, abs_zero]; exact (zero_div _).symm

theorem canonical_zero (negative : Bool) : (finite negative 0 0).Canonical :=
  .finite negative (by positivity) (Nat.zero_le _) (.inl rfl)

theorem value_zero : (finite false 0 0).value = 0 := by
  rw [value_finite, Nat.zero_mul, Nat.cast_zero, zero_div]
  rfl

theorem eq_zero_of_abs_sub_neg {v q : ℚ} (h : |v - -q| = |v - q|) : v = 0 ∨ q = 0 := by
  rcases abs_eq_abs.mp h with heq | heq
  · exact .inr (by linarith)
  · exact .inl (by linarith)

/-- What is nearest without its sign is nearest with it. -/
theorem nearest_of_units {negative : Bool} {mantissa exponent : Nat} {r : ℚ} (hr : 0 ≤ r)
    (hcanonical : (finite negative mantissa exponent).Canonical)
    (hleast : ∀ y : Double, y.Canonical →
      |r - (mantissa * 2 ^ exponent : ℕ)| ≤ |r - y.units|)
    (heven : ∀ y : Double, y.Canonical →
      |r - y.units| = |r - (mantissa * 2 ^ exponent : ℕ)| → y.units ≠ mantissa * 2 ^ exponent →
        Even mantissa) :
    Nearest (signed negative (r / unitsPerOne)) (finite negative mantissa exponent) := by
  have hunit := unitsPerOne_pos
  have hown : |signed negative (r / unitsPerOne) - (finite negative mantissa exponent).value| =
      |r - (mantissa * 2 ^ exponent : ℕ)| / unitsPerOne := by
    rw [value_finite, abs_signed_sub, ← sub_div, abs_div, abs_of_pos hunit]
  have hother (y : Double) :
      |r - y.units| / unitsPerOne ≤ |signed negative (r / unitsPerOne) - y.value| := by
    have hless := abs_abs_sub_abs_le (signed negative (r / unitsPerOne)) y.value
    rwa [abs_signed, abs_value, abs_of_nonneg (div_nonneg hr hunit.le), ← sub_div, abs_div,
      abs_of_pos hunit] at hless
  have hnearest : ∀ y : Double, y.Canonical →
      |signed negative (r / unitsPerOne) - (finite negative mantissa exponent).value| ≤
        |signed negative (r / unitsPerOne) - y.value| := by
    intro y hy
    rw [hown]
    exact (div_le_div_of_nonneg_right (hleast y hy) hunit.le).trans (hother y)
  refine ⟨hcanonical, hnearest, fun y hy heq hne => ?_⟩
  have hsame : |r - y.units| = |r - (mantissa * 2 ^ exponent : ℕ)| := by
    refine le_antisymm ?_ (hleast y hy)
    have hless := (hother y).trans (heq.trans hown).le
    rwa [div_le_div_iff_of_pos_right hunit] at hless
  by_cases hunits : y.units = mantissa * 2 ^ exponent
  · -- The other double differs in its sign only, so that both are zero.
    exfalso
    have habs : |y.value| = |(finite negative mantissa exponent).value| := by
      rw [abs_value, abs_value, hunits]
      rfl
    have hopposite := (abs_eq_abs.mp habs).resolve_left hne
    rw [hopposite] at heq hne
    have hzero : (finite negative mantissa exponent).value = 0 := by
      rcases eq_zero_of_abs_sub_neg heq with hv | hvalue
      · have hleast := hnearest _ (canonical_zero false)
        rw [value_zero, hv, zero_sub, abs_neg, sub_zero, abs_zero] at hleast
        exact abs_nonpos_iff.mp hleast
      · exact hvalue
    exact hne (by rw [hzero, neg_zero])
  · exact heven y hy hsame hunits

theorem overflow_units : overflow * unitsPerOne = (2 ^ 53 - 1 / 2) * 2 ^ maxExponent := by
  have hunit : (unitsPerOne : ℚ) = 2 ^ 1074 := by
    rw [unitsPerOne, twoTo_eq, Nat.cast_pow, Nat.cast_ofNat]
  have hgreatest : (2 : ℚ) ^ maxExponent = 2 ^ (970 + 1074) * 2 := pow_succ 2 (970 + 1074)
  have hlimit : (2 : ℚ) ^ (1024 + 1074) = 2 ^ 53 * 2 ^ maxExponent := pow_add 2 53 maxExponent
  rw [overflow, hunit, sub_mul, ← pow_add, ← pow_add, hlimit, hgreatest]
  -- The powers are not to be computed.
  generalize (2 : ℚ) ^ (970 + 1074) = power
  ring

/-- A quotient is rounded to the nearest double, if it does not lie beyond them. -/
theorem ofRatio_nearest (negative : Bool) (num : Nat) {den : Nat} (h : 0 < den) :
    if (num : ℚ) / den < overflow then
      Nearest (signed negative (num / den)) (ofRatio negative num den)
    else ofRatio negative num den = .infinity negative := by
  have hunit := unitsPerOne_pos
  have hunits : ((num * unitsPerOne : ℕ) : ℚ) / den = num / den * unitsPerOne := by
    rw [Nat.cast_mul, mul_div_right_comm]
  have hrounded := rounded_ratio (num * unitsPerOne) h
  have hlimit := hrounded.lt_power_iff maxExponent
  rw [hunits] at hrounded hlimit
  rw [← overflow_units, mul_lt_mul_iff_of_pos_right hunit] at hlimit
  rw [ofRatio]
  rcases hrounded.normalize_cases negative with ⟨hless, m, e, hfinite, hcanonical, hsame, heven⟩ |
      ⟨hmore, hinfinite⟩
  · rw [if_pos (hlimit.mp hless), hfinite]
    have hvalue : (num : ℚ) / den = num / den * unitsPerOne / unitsPerOne :=
      (mul_div_cancel_right₀ _ hunit.ne').symm
    have hnonneg : 0 ≤ (num : ℚ) / den * unitsPerOne :=
      mul_nonneg (div_nonneg (Nat.cast_nonneg _) (Nat.cast_nonneg _)) hunit.le
    rw [hvalue]
    refine nearest_of_units hnonneg hcanonical ?_ ?_
    · intro y hy
      rw [hsame]
      push_cast
      exact (hrounded.nearest_units hy).1
    · intro y hy
      rw [hsame]
      push_cast
      exact fun heq hne => heven ((hrounded.nearest_units hy).2 heq hne)
  · rw [if_neg fun hless => absurd (hlimit.mpr hless) (Nat.not_lt.mpr hmore), hinfinite]

/-- What is less than half a unit is rounded to zero. -/
theorem nearest_zero (negative : Bool) {q : ℚ} (hq : 0 ≤ q) (hsmall : 2 * (q * unitsPerOne) ≤ 1) :
    Nearest (signed negative q) (finite negative 0 0) := by
  have hunit := unitsPerOne_pos
  have hvalue : q = q * unitsPerOne / unitsPerOne := (mul_div_cancel_right₀ _ hunit.ne').symm
  have hnonneg : 0 ≤ q * unitsPerOne := mul_nonneg hq hunit.le
  rw [hvalue]
  refine nearest_of_units hnonneg (canonical_zero negative) ?_ fun _ _ _ _ => Even.zero
  intro y _
  rw [Nat.zero_mul, Nat.cast_zero, sub_zero, abs_of_nonneg hnonneg]
  rcases Nat.eq_zero_or_pos y.units with hzero | hpos
  · rw [hzero, Nat.cast_zero, sub_zero, abs_of_nonneg hnonneg]
  · have hone : (1 : ℚ) ≤ y.units := by exact_mod_cast hpos
    exact le_trans (by linarith) (neg_le_abs _)

theorem two_pow_le_overflow {k : Nat} (h : k ≤ 970) : 2 ^ k ≤ overflow := by
  have hless : (2 : ℚ) ^ (970 + 1) ≤ 2 ^ 1024 := pow_le_pow_right₀ (by norm_num) (by norm_num)
  have hpower : (2 : ℚ) ^ k ≤ 2 ^ 970 := pow_le_pow_right₀ (by norm_num) h
  rw [pow_succ] at hless
  unfold overflow
  generalize (2 : ℚ) ^ 970 = low, (2 : ℚ) ^ 1024 = high at *
  linarith

theorem one_le_overflow : 1 ≤ overflow := by
  have hpower := two_pow_le_overflow (Nat.zero_le 970)
  rwa [pow_zero] at hpower

theorem two_pow_le_ten_pow : (2 : ℚ) ^ 1300 ≤ 10 ^ 400 :=
  calc (2 : ℚ) ^ 1300 = (2 ^ 13) ^ 100 := pow_mul 2 13 100
    _ ≤ (10 ^ 4) ^ 100 := pow_le_pow_left₀ (by norm_num) (by norm_num) 100
    _ = 10 ^ 400 := (pow_mul 10 4 100).symm

theorem two_mul_unitsPerOne_le : 2 * (unitsPerOne : ℚ) ≤ 10 ^ 400 :=
  calc 2 * (unitsPerOne : ℚ) = 2 ^ (1 + 1074) := by
        rw [unitsPerOne, twoTo_eq, Nat.cast_pow, Nat.cast_ofNat, pow_add, pow_one]
    _ ≤ 2 ^ 1300 := pow_le_pow_right₀ (by norm_num) (by norm_num)
    _ ≤ 10 ^ 400 := two_pow_le_ten_pow

theorem overflow_le : overflow ≤ 10 ^ 400 :=
  calc overflow ≤ 2 ^ 1024 := sub_le_self _ (pow_nonneg (by norm_num) 970)
    _ ≤ 2 ^ 1300 := pow_le_pow_right₀ (by norm_num) (by norm_num)
    _ ≤ 10 ^ 400 := two_pow_le_ten_pow

/-- A number lies between the powers of ten that the length of its decimal text gives. -/
theorem exists_length_repr {n : Nat} (h : n ≠ 0) :
    ∃ digits, (Nat.repr n).length = digits + 1 ∧ 10 ^ digits ≤ n ∧ n < 10 ^ (digits + 1) := by
  obtain ⟨digits, hdigits⟩ : ∃ digits, (Nat.toDigits 10 n).length = digits + 1 :=
    ⟨_, (Nat.succ_pred_eq_of_pos (List.length_pos_iff.mpr Nat.toDigits_ne_nil)).symm⟩
  refine ⟨digits, ?_, ?_, ?_⟩
  · rw [← String.length_toList, Nat.toList_repr, hdigits]
  · rcases Nat.eq_zero_or_pos digits with hone | hmore
    · rw [hone]
      exact Nat.pos_of_ne_zero h
    · rw [← Nat.not_lt, ← Nat.length_toDigits_le_iff (by omega) hmore, hdigits]
      omega
  · rw [← Nat.length_toDigits_le_iff (by omega) (by omega), hdigits]

/-- A decimal lies between the powers of ten that its length and its exponent give. -/
theorem exists_magnitude {coefficient : Nat} (h : coefficient ≠ 0) (exponent : Int) :
    ∃ digits : Nat, (Nat.repr coefficient).length = digits + 1 ∧
      (10 : ℚ) ^ ((digits : ℤ) + exponent) ≤ coefficient * 10 ^ exponent ∧
      (coefficient : ℚ) * 10 ^ exponent < 10 ^ (((digits + 1 : ℕ) : ℤ) + exponent) := by
  obtain ⟨digits, hlength, hlow, hhigh⟩ := exists_length_repr h
  have hpower : (0 : ℚ) < 10 ^ exponent := zpow_pos (by norm_num) exponent
  refine ⟨digits, hlength, ?_, ?_⟩
  · rw [zpow_add₀ (by norm_num), zpow_natCast]
    exact mul_le_mul_of_nonneg_right (by exact_mod_cast hlow) hpower.le
  · rw [zpow_add₀ (by norm_num), zpow_natCast]
    exact mul_lt_mul_of_pos_right (by exact_mod_cast hhigh) hpower

/-- Decimals that are far too small for a double are rounded to zero. -/
theorem nearest_zero_of_small (negative : Bool) {q : ℚ} {magnitude : ℤ} (hq : 0 ≤ q)
    (h : q < 10 ^ magnitude) (hsmall : magnitude < -400) :
    q < overflow ∧ Nearest (signed negative q) (finite negative 0 0) := by
  have hone : (1 : ℚ) ≤ 10 := by norm_num
  have hless : q < overflow :=
    calc q < 10 ^ magnitude := h
      _ ≤ 10 ^ (0 : ℤ) := zpow_le_zpow_right₀ hone (by omega)
      _ ≤ overflow := one_le_overflow
  have htiny : q ≤ 1 / 10 ^ 400 := by
    have hpower : (10 : ℚ) ^ magnitude ≤ 10 ^ (-(400 : ℕ) : ℤ) :=
      zpow_le_zpow_right₀ hone (by omega)
    rw [one_div, ← zpow_natCast, ← zpow_neg]
    exact h.le.trans hpower
  refine ⟨hless, nearest_zero negative hq ?_⟩
  calc 2 * (q * unitsPerOne) = q * (2 * unitsPerOne) := by ring
    _ ≤ 1 / 10 ^ 400 * 10 ^ 400 :=
      mul_le_mul htiny two_mul_unitsPerOne_le (mul_nonneg zero_le_two unitsPerOne_pos.le)
        (by positivity)
    _ = 1 := div_mul_cancel₀ 1 (pow_ne_zero 400 (by norm_num))

/-- A decimal as the quotient that is rounded. -/
theorem mul_zpow_eq_div (coefficient : Nat) (exponent : Int) :
    (coefficient : ℚ) * 10 ^ exponent =
      if exponent < 0 then (coefficient : ℚ) / (tenTo exponent.natAbs : ℕ)
      else (coefficient * tenTo exponent.natAbs : ℕ) / (1 : ℕ) := by
  rw [tenTo_eq, Nat.cast_mul, Nat.cast_pow, Nat.cast_ofNat, Nat.cast_one, div_one]
  split
  · have hexponent : exponent = -(exponent.natAbs : ℤ) := by omega
    rw [hexponent, zpow_neg, zpow_natCast, Int.natAbs_neg, Int.natAbs_natCast, div_eq_mul_inv]
  · have hexponent : exponent = (exponent.natAbs : ℤ) := by omega
    rw [hexponent, zpow_natCast, Int.natAbs_natCast]

/-- A decimal is rounded to the nearest double, if it does not lie beyond them. -/
theorem ofDecimal_nearest (negative : Bool) (coefficient : Nat) (exponent : Int) :
    if (coefficient : ℚ) * 10 ^ exponent < overflow then
      Nearest (signed negative (coefficient * 10 ^ exponent))
        (ofDecimal negative coefficient exponent)
    else ofDecimal negative coefficient exponent = .infinity negative := by
  unfold ofDecimal
  by_cases hzero : coefficient = 0
  · subst hzero
    rw [Nat.cast_zero, zero_mul, if_pos (one_pos.trans_le one_le_overflow), if_pos (by simp)]
    exact nearest_zero negative (le_refl 0) (by rw [zero_mul, mul_zero]; exact zero_le_one)
  · obtain ⟨digits, hlength, hlow, hhigh⟩ := exists_magnitude hzero exponent
    simp only [hlength, hzero, decide_false, Bool.false_or, decide_eq_true_eq]
    by_cases hsmall : ((digits + 1 : ℕ) : ℤ) + exponent < -400
    · have hnonneg : 0 ≤ (coefficient : ℚ) * 10 ^ exponent :=
        (zpow_nonneg (by norm_num) _).trans hlow
      obtain ⟨hless, hnearest⟩ := nearest_zero_of_small negative hnonneg hhigh hsmall
      rwa [if_pos hless, if_pos hsmall]
    by_cases hlarge : 400 < ((digits + 1 : ℕ) : ℤ) + exponent
    · have hmore : overflow ≤ (coefficient : ℚ) * 10 ^ exponent :=
        calc overflow ≤ 10 ^ 400 := overflow_le
          _ = 10 ^ ((400 : ℕ) : ℤ) := (zpow_natCast 10 400).symm
          _ ≤ 10 ^ ((digits : ℤ) + exponent) := zpow_le_zpow_right₀ (by norm_num) (by omega)
          _ ≤ coefficient * 10 ^ exponent := hlow
      rw [if_neg (not_lt.mpr hmore), if_neg hsmall, if_pos hlarge]
    · rw [if_neg hsmall, if_neg hlarge, mul_zpow_eq_div]
      by_cases hneg : exponent < 0
      · rw [if_pos hneg, if_pos hneg]
        exact ofRatio_nearest negative coefficient (tenTo_pos _)
      · rw [if_neg hneg, if_neg hneg]
        exact ofRatio_nearest negative _ Nat.one_pos

/-- The integer part of a number, toward zero. -/
def towardZero (q : ℚ) : ℤ := if 0 ≤ q then ⌊q⌋ else ⌈q⌉

theorem towardZero_signed (negative : Bool) {q : ℚ} (h : 0 ≤ q) :
    towardZero (signed negative q) = if negative then -⌊q⌋ else ⌊q⌋ := by
  cases negative with
  | false => exact if_pos h
  | true =>
    rw [signed, if_pos rfl, if_pos rfl, towardZero]
    split
    · next hneg =>
      obtain rfl : q = 0 := by linarith
      rfl
    · exact Int.ceil_neg

/-- Truncating takes the integer part of the exact value. -/
theorem truncate_eq_towardZero (x : Double) : x.truncate = towardZero x.value := by
  have hzero : towardZero 0 = 0 := rfl
  cases x with
  | finite negative mantissa exponent =>
    have hfloor : ⌊((mantissa * 2 ^ exponent : ℕ) : ℚ) / unitsPerOne⌋ =
        (mantissa * 2 ^ exponent / unitsPerOne : ℕ) := by
      rw [Rat.floor_natCast_div_natCast, Int.natCast_div]
    rw [value_finite, towardZero_signed negative (by positivity), hfloor]
    rfl
  | nan | infinity => rw [value_of_not_finite rfl, hzero]; rfl

theorem Nearest.value_eq {v : ℚ} {x y : Double} (h : x.Nearest v) (hy : y.Canonical)
    (hv : y.value = v) : x.value = v := by
  have hleast := h.least y hy
  rw [hv, sub_self, abs_zero] at hleast
  exact (sub_eq_zero.mp (abs_nonpos_iff.mp hleast)).symm

/-- All natural numbers with at most 53 binary digits are doubles, and so is the next one. -/
theorem exists_canonical_nat (negative : Bool) {n : Nat} (h : n ≤ 2 ^ 53) :
    ∃ mantissa exponent, (finite negative mantissa exponent).Canonical ∧
      mantissa * 2 ^ exponent = n * unitsPerOne := by
  have hmax : maxExponent = 2045 := rfl
  rw [unitsPerOne, twoTo_eq]
  rcases Nat.eq_zero_or_pos n with rfl | hpos
  · exact ⟨0, 0, canonical_zero negative, by rw [Nat.zero_mul, Nat.zero_mul]⟩
  rcases h.eq_or_lt with rfl | hless
  · have hpower (k : ℕ) : 2 ^ 52 * 2 ^ (k + 1) = 2 ^ 53 * 2 ^ k := by
      rw [Nat.pow_succ]
      ring
    exact ⟨2 ^ 52, 1074 + 1, .finite negative (by decide) (by omega) (.inr le_rfl), hpower 1074⟩
  · -- The number is moved to the left until it has 53 binary digits.
    obtain ⟨hlow, hhigh⟩ := (Nat.log2_eq_iff hpos.ne').mp rfl
    generalize n.log2 = k at hlow hhigh
    have hk : k < 53 := (Nat.pow_lt_pow_iff_right (by omega)).mp (hlow.trans_lt hless)
    have hmantissa : n * 2 ^ (52 - k) < 2 ^ 53 :=
      calc n * 2 ^ (52 - k) < 2 ^ (k + 1) * 2 ^ (52 - k) :=
            Nat.mul_lt_mul_of_pos_right hhigh (Nat.two_pow_pos _)
        _ = 2 ^ 53 := by rw [← Nat.pow_add]; congr 1; omega
    have hnormal : 2 ^ 52 ≤ n * 2 ^ (52 - k) :=
      calc 2 ^ 52 = 2 ^ k * 2 ^ (52 - k) := by rw [← Nat.pow_add]; congr 1; omega
        _ ≤ n * 2 ^ (52 - k) := Nat.mul_le_mul_right _ hlow
    refine ⟨n * 2 ^ (52 - k), 1022 + k, .finite negative hmantissa (by omega) (.inr hnormal), ?_⟩
    rw [Nat.mul_assoc, ← Nat.pow_add]
    congr 2
    omega

theorem exists_canonical_int {n : ℤ} (h : |n| ≤ 2 ^ 53) :
    ∃ x : Double, x.Canonical ∧ x.value = n := by
  have hsize : n.natAbs ≤ 2 ^ 53 := by
    rw [Int.abs_eq_natAbs] at h
    exact_mod_cast h
  obtain ⟨mantissa, exponent, hcanonical, hunits⟩ := exists_canonical_nat (n < 0) hsize
  refine ⟨_, hcanonical, ?_⟩
  rw [value_finite, hunits, Nat.cast_mul, mul_div_cancel_right₀ _ unitsPerOne_pos.ne', signed]
  split
  · next hneg =>
    have habs : ((n.natAbs : ℕ) : ℤ) = -n := by
      rw [decide_eq_true_eq] at hneg
      omega
    rw [← Int.cast_natCast, habs, Int.cast_neg, neg_neg]
  · next hneg =>
    have habs : ((n.natAbs : ℕ) : ℤ) = n := by
      rw [decide_eq_true_eq] at hneg
      omega
    rw [← Int.cast_natCast, habs]

end Double

end QueryGate.Number
