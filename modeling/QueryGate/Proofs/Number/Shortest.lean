import QueryGate.Number.Double
import QueryGate.Proofs.Number.Rounding

/-!
# The shortest decimal is read back

The numbers of the rounding interval of a double are nearer to it than to any other double, so that
they are rounded to it. Among the decimals with seventeen digits there is always one in the
interval. So the shortest decimal of a double lies in its interval, and is read as the double.
-/

namespace QueryGate.Number

namespace Double

section

variable {negative : Bool} {m m' e e' : Nat} {x y : Double} {v : ℚ}

/-- Between two doubles with even mantissas lies the next double after the smaller one. -/
theorem canonical_between (h : (finite negative m e).Canonical) (heven : Even m) (heven' : Even m')
    (hexponent : e ≤ e') (hless : m * 2 ^ e < m' * 2 ^ e') :
    (finite negative (m + 1) e).Canonical ∧ (m + 1) * 2 ^ e < m' * 2 ^ e' := by
  obtain ⟨-, hmantissa, hmax, hnormal⟩ := h
  obtain ⟨k, rfl⟩ := heven
  obtain ⟨k', rfl⟩ := heven'
  refine ⟨.finite negative (by omega) hmax (by omega), ?_⟩
  -- Both are multiples of twice the power.
  obtain ⟨d, rfl⟩ := Nat.exists_eq_add_of_le hexponent
  rw [Nat.pow_add, Nat.mul_comm (2 ^ e), ← Nat.mul_assoc,
    Nat.mul_lt_mul_right (Nat.two_pow_pos e)] at hless ⊢
  rw [← Nat.two_mul, ← Nat.two_mul, Nat.mul_assoc] at hless ⊢
  omega

theorem exponent_le_of_canonical {negative' : Bool} (h : (finite negative m e).Canonical)
    (h' : (finite negative' m' e').Canonical) (hle : m * 2 ^ e ≤ m' * 2 ^ e') : e ≤ e' := by
  obtain ⟨-, -, -, hnormal⟩ := h
  obtain ⟨-, hmantissa, -, -⟩ := h'
  by_contra hless
  have hlow : 2 ^ 52 ≤ m := hnormal.resolve_left (by omega)
  have habove : m' * 2 ^ e' < m * 2 ^ e :=
    calc m' * 2 ^ e' < 2 ^ 53 * 2 ^ e' :=
          Nat.mul_lt_mul_of_pos_right hmantissa (Nat.two_pow_pos e')
      _ = 2 ^ 52 * 2 ^ (e' + 1) := by rw [Nat.pow_succ]; ring
      _ ≤ m * 2 ^ e := Nat.mul_le_mul hlow (Nat.pow_le_pow_right (by omega) (by omega))
  omega

theorem eq_of_units_eq {negative' : Bool} (h : (finite negative m e).Canonical)
    (h' : (finite negative' m' e').Canonical) (heq : m * 2 ^ e = m' * 2 ^ e') :
    m = m' ∧ e = e' := by
  obtain rfl : e = e' := Nat.le_antisymm (exponent_le_of_canonical h h' heq.le)
    (exponent_le_of_canonical h' h heq.ge)
  exact ⟨Nat.eq_of_mul_eq_mul_right (Nat.two_pow_pos e) heq, rfl⟩

theorem value_lt_value_iff : (finite false m e).value < (finite false m' e').value ↔
    m * 2 ^ e < m' * 2 ^ e' := by
  rw [value_finite, value_finite, signed, signed, if_neg Bool.false_ne_true,
    if_neg Bool.false_ne_true, div_lt_div_iff_of_pos_right unitsPerOne_pos, Nat.cast_lt]

theorem value_true : (finite true m e).value = -(finite false m e).value := by
  rw [value_finite, value_finite, signed, if_pos rfl, signed, if_neg Bool.false_ne_true]

theorem exists_opposite (hx : x.Canonical) :
    ∃ y : Double, y.Canonical ∧ y.mantissa = x.mantissa ∧ y.value = -x.value := by
  obtain ⟨sign, hmantissa, hexponent, hnormal⟩ := hx
  refine ⟨_, .finite (!sign) hmantissa hexponent hnormal, rfl, ?_⟩
  cases sign
  · exact value_true
  · rw [value_true, neg_neg]
    rfl

/-- A double that is not below zero has the same value without its sign. -/
theorem exists_unsigned (hx : x.Canonical) (h : 0 ≤ x.value) :
    ∃ m e, (finite false m e).Canonical ∧ m = x.mantissa ∧ (finite false m e).value = x.value := by
  obtain ⟨sign, hmantissa, hexponent, hnormal⟩ := hx
  rename_i m e
  refine ⟨m, e, .finite false hmantissa hexponent hnormal, rfl, ?_⟩
  cases sign with
  | false => rfl
  | true =>
    have hnonneg : 0 ≤ (finite false m e).value := by
      rw [value_finite]
      exact div_nonneg (Nat.cast_nonneg _) unitsPerOne_pos.le
    rw [value_true] at h ⊢
    linarith

theorem exists_between_nonneg (hx : x.Canonical) (hy : y.Canonical) (hxeven : Even x.mantissa)
    (hyeven : Even y.mantissa) (hnonneg : 0 ≤ x.value) (hless : x.value < y.value) :
    ∃ z : Double, z.Canonical ∧ x.value < z.value ∧ z.value < y.value := by
  obtain ⟨m, e, hm, hmx, hvx⟩ := exists_unsigned hx hnonneg
  obtain ⟨m', e', hm', hmy, hvy⟩ := exists_unsigned hy (hnonneg.trans hless.le)
  rw [← hvx, ← hvy] at hless ⊢
  rw [value_lt_value_iff] at hless
  obtain ⟨hcanonical, hnext⟩ := canonical_between hm (hmx ▸ hxeven) (hmy ▸ hyeven)
    (exponent_le_of_canonical hm hm' hless.le) hless
  refine ⟨_, hcanonical, value_lt_value_iff.mpr ?_, value_lt_value_iff.mpr hnext⟩
  exact Nat.mul_lt_mul_of_pos_right (Nat.lt_succ_self m) (Nat.two_pow_pos e)

/-- Between the values of two doubles with even mantissas lies the value of another double. -/
theorem exists_between (hx : x.Canonical) (hy : y.Canonical) (hxeven : Even x.mantissa)
    (hyeven : Even y.mantissa) (hless : x.value < y.value) :
    ∃ z : Double, z.Canonical ∧ x.value < z.value ∧ z.value < y.value := by
  rcases le_or_gt 0 x.value with hnonneg | hneg
  · exact exists_between_nonneg hx hy hxeven hyeven hnonneg hless
  · rcases lt_or_ge 0 y.value with hpos | hnonpos
    · exact ⟨_, canonical_zero false, by rwa [value_zero], by rwa [value_zero]⟩
    · obtain ⟨x', hx', hmx, hvx⟩ := exists_opposite hx
      obtain ⟨y', hy', hmy, hvy⟩ := exists_opposite hy
      obtain ⟨z, hz, hlow, hhigh⟩ := exists_between_nonneg hy' hx' (hmy ▸ hyeven) (hmx ▸ hxeven)
        (by linarith) (by linarith)
      obtain ⟨z', hz', -, hvz⟩ := exists_opposite hz
      exact ⟨z', hz', by linarith, by linarith⟩

/-- Two doubles that are nearest to a number have the same value: in the middle between two others
there is no number that both are nearest to. -/
theorem Nearest.value_unique (hx : x.Nearest v) (hy : y.Nearest v) : x.value = y.value := by
  have hlt {x y : Double} (hx : x.Nearest v) (hy : y.Nearest v) : ¬ x.value < y.value := by
    intro hless
    have hsame := le_antisymm (hx.least y hy.canonical) (hy.least x hx.canonical)
    obtain ⟨z, hz, hlow, hhigh⟩ := exists_between hx.canonical hy.canonical
      (hx.even y hy.canonical hsame.symm hless.ne') (hy.even x hx.canonical hsame hless.ne) hless
    have hmiddle : v - x.value = y.value - v := by
      rcases abs_eq_abs.mp hsame with heq | heq <;> linarith
    have hnearer := hx.least z hz
    rw [abs_of_nonneg (by linarith), le_abs] at hnearer
    rcases hnearer with hle | hle <;> linarith
  exact le_antisymm (not_lt.mp (hlt hy hx)) (not_lt.mp (hlt hx hy))

/-- The double that is nearest to a number is the only one, unless it is zero. -/
theorem Nearest.eq_finite (hx : (finite negative m e).Nearest v) (hm : m ≠ 0) (hy : y.Nearest v) :
    y = finite negative m e := by
  have hvalue := hx.value_unique hy
  obtain ⟨sign, hmantissa, hexponent, hnormal⟩ := id hy.canonical
  rename_i m' e'
  have habs := congrArg abs hvalue
  rw [abs_value, abs_value, div_left_inj' unitsPerOne_pos.ne', Nat.cast_inj] at habs
  obtain ⟨rfl, rfl⟩ := eq_of_units_eq hx.canonical hy.canonical habs
  have hpos : 0 < (finite false m e).value := by
    rw [← value_zero, value_lt_value_iff, Nat.zero_mul]
    exact Nat.mul_pos (Nat.pos_of_ne_zero hm) (Nat.two_pow_pos e)
  cases negative <;> cases sign
  · rfl
  · rw [value_true] at hvalue
    linarith
  · rw [value_true] at hvalue
    linarith
  · rfl

end

/-- The quarter units between a double and the lower end of its rounding interval. -/
def halfGap (mantissa exponent : Nat) : Nat :=
  if mantissa = 2 ^ 52 ∧ exponent ≠ 0 then 2 ^ exponent else 2 * 2 ^ exponent

/-- The number of units lies in the rounding interval of a double. -/
structure Within (mantissa exponent : Nat) (r : ℚ) : Prop where
  low : 4 * (mantissa * 2 ^ exponent) - halfGap mantissa exponent ≤ 4 * r
  high : 4 * r ≤ 4 * (mantissa * 2 ^ exponent) + 2 * 2 ^ exponent
  inner : ¬ Even mantissa → 4 * (mantissa * 2 ^ exponent) - halfGap mantissa exponent < 4 * r ∧
    4 * r < 4 * (mantissa * 2 ^ exponent) + 2 * 2 ^ exponent

section

variable {negative : Bool} {m e : Nat} {y : Double} {r : ℚ}

/-- Another double is at least twice as far away as the ends of the interval. -/
theorem gap (h : (finite negative m e).Canonical) (hy : y.Canonical) :
    y.units = m * 2 ^ e ∨ m * 2 ^ e + 2 ^ e ≤ y.units ∨
      4 * y.units + 2 * halfGap m e ≤ 4 * (m * 2 ^ e) := by
  have hpower := Nat.two_pow_pos e
  obtain ⟨-, -, -, hnormal⟩ := h
  rcases hy.units_cases e with ⟨k, hk⟩ | ⟨hne, hless⟩
  · rcases lt_trichotomy k m with hless | rfl | hmore
    · have hgap : halfGap m e ≤ 2 * 2 ^ e := by
        rw [halfGap]
        split <;> omega
      have hbelow : (k + 1) * 2 ^ e ≤ m * 2 ^ e := Nat.mul_le_mul_right _ hless
      rw [Nat.add_mul, Nat.one_mul] at hbelow
      omega
    · exact .inl hk
    · have habove : (m + 1) * 2 ^ e ≤ k * 2 ^ e := Nat.mul_le_mul_right _ hmore
      rw [Nat.add_mul, Nat.one_mul] at habove
      omega
  · -- The other double has a smaller exponent, and lies below all mantissas of this one.
    obtain ⟨d, rfl⟩ := Nat.exists_eq_succ_of_ne_zero hne
    have hlow : 2 ^ 52 ≤ m := hnormal.resolve_left hne
    have hhalf : 2 ^ (52 + (d + 1)) = 2 ^ 53 * 2 ^ d := by
      rw [← Nat.pow_add]
      congr 1
      omega
    have hfar : y.units + 2 ^ d ≤ 2 ^ 53 * 2 ^ d := by
      rw [hhalf] at hless
      rcases hy.units_cases d with ⟨k, hk⟩ | ⟨-, hsmall⟩
      · rw [hk] at hless ⊢
        have hk : k + 1 ≤ 2 ^ 53 := Nat.lt_of_mul_lt_mul_right hless
        calc k * 2 ^ d + 2 ^ d = (k + 1) * 2 ^ d := by ring
          _ ≤ 2 ^ 53 * 2 ^ d := Nat.mul_le_mul_right _ hk
      · rw [Nat.pow_add] at hsmall
        omega
    right
    right
    rcases hlow.eq_or_lt with rfl | hmore
    · rw [halfGap, if_pos ⟨rfl, hne⟩, Nat.pow_succ]
      omega
    · have habove : (2 ^ 52 + 1) * 2 ^ (d + 1) ≤ m * 2 ^ (d + 1) := Nat.mul_le_mul_right _ hmore
      rw [halfGap, if_neg fun hcond => hmore.ne' hcond.1]
      rw [Nat.pow_succ 2 d] at habove ⊢
      omega

theorem abs_sub_le_of_middle {r p q : ℚ} (h : p ≤ q ∧ 2 * r ≤ p + q ∨ q ≤ p ∧ p + q ≤ 2 * r) :
    |r - p| ≤ |r - q| := by
  rcases h with ⟨hpq, hr⟩ | ⟨hqp, hr⟩
  · exact (abs_le.mpr ⟨by linarith, by linarith⟩ : |r - p| ≤ -(r - q)).trans (neg_le_abs _)
  · exact (abs_le.mpr ⟨by linarith, by linarith⟩ : |r - p| ≤ r - q).trans (le_abs_self _)

theorem abs_sub_lt_of_middle {r p q : ℚ} (h : p < q ∧ 2 * r < p + q ∨ q < p ∧ p + q < 2 * r) :
    |r - p| < |r - q| := by
  rcases h with ⟨hpq, hr⟩ | ⟨hqp, hr⟩
  · exact (abs_lt.mpr ⟨by linarith, by linarith⟩ : |r - p| < -(r - q)).trans_le (neg_le_abs _)
  · exact (abs_lt.mpr ⟨by linarith, by linarith⟩ : |r - p| < r - q).trans_le (le_abs_self _)

theorem halfGap_le (h : m ≠ 0) : halfGap m e ≤ 4 * (m * 2 ^ e) := by
  have hpower : 1 * 2 ^ e ≤ m * 2 ^ e := Nat.mul_le_mul_right _ (Nat.pos_of_ne_zero h)
  rw [halfGap]
  split <;> omega

/-- The numbers of the rounding interval are nearer to the double than to any other. -/
theorem Within.nearest (h : Within m e r) (hcanonical : (Double.finite negative m e).Canonical)
    (hm : m ≠ 0) : Nearest (signed negative (r / unitsPerOne)) (Double.finite negative m e) := by
  have hr : 0 ≤ r := by
    have hgap : (halfGap m e : ℚ) ≤ 4 * (m * 2 ^ e) := by exact_mod_cast halfGap_le hm
    have hlow := h.low
    linarith
  have hpower : (0 : ℚ) < 2 ^ e := by positivity
  have hhalf : (0 : ℚ) < halfGap m e := by
    rw [halfGap]
    split <;> · push_cast; positivity
  have hfar {y : Double} (hy : y.Canonical) (hunits : y.units ≠ m * 2 ^ e) :
      (m * 2 ^ e + 2 ^ e : ℚ) ≤ y.units ∨ 4 * y.units + 2 * halfGap m e ≤ 4 * (m * 2 ^ e : ℚ) := by
    rcases (gap hcanonical hy).resolve_left hunits with habove | hbelow
    · exact .inl (by exact_mod_cast habove)
    · exact .inr (by exact_mod_cast hbelow)
  obtain ⟨hlow, hhigh, hinner⟩ := h
  refine nearest_of_units hr hcanonical (fun y hy => ?_) fun y hy heq hunits => ?_
  · by_cases hunits : y.units = m * 2 ^ e
    · rw [hunits]
    · push_cast
      refine abs_sub_le_of_middle ?_
      rcases hfar hy hunits with habove | hbelow
      · exact .inl ⟨by linarith, by linarith⟩
      · exact .inr ⟨by linarith, by linarith⟩
  · by_contra hodd
    obtain ⟨hlow, hhigh⟩ := hinner hodd
    refine (ne_of_gt ?_) heq
    push_cast
    refine abs_sub_lt_of_middle ?_
    rcases hfar hy hunits with habove | hbelow
    · exact .inl ⟨by linarith, by linarith⟩
    · exact .inr ⟨by linarith, by linarith⟩

/-- The numbers of the rounding interval are no overflow. -/
theorem Within.lt_overflow (h : Within m e r)
    (hcanonical : (Double.finite negative m e).Canonical) : r < overflow * unitsPerOne := by
  obtain ⟨-, hmantissa, hexponent, -⟩ := hcanonical
  have hpower : (0 : ℚ) < 2 ^ e := by positivity
  have hgreatest : (2 : ℚ) ^ e ≤ 2 ^ maxExponent := pow_le_pow_right₀ one_le_two hexponent
  have hbound : 4 * r < (4 * 2 ^ 53 - 2) * 2 ^ e := by
    by_cases heven : Even m
    · have hm : (m : ℚ) + 2 ≤ 2 ^ 53 := by
        obtain ⟨k, rfl⟩ := heven
        exact_mod_cast (by omega : k + k + 2 ≤ 2 ^ 53)
      have hless : (4 * m + 2 : ℚ) * 2 ^ e < (4 * 2 ^ 53 - 2) * 2 ^ e :=
        mul_lt_mul_of_pos_right (by linarith) hpower
      linarith [h.high]
    · have hm : (m : ℚ) + 1 ≤ 2 ^ 53 := by exact_mod_cast hmantissa
      have hle : (4 * m + 2 : ℚ) * 2 ^ e ≤ (4 * 2 ^ 53 - 2) * 2 ^ e :=
        mul_le_mul_of_nonneg_right (by linarith) hpower.le
      linarith [(h.inner heven).2]
  have hle : ((4 : ℚ) * 2 ^ 53 - 2) * 2 ^ e ≤ (4 * 2 ^ 53 - 2) * 2 ^ maxExponent :=
    mul_le_mul_of_nonneg_left hgreatest (by norm_num)
  rw [overflow_units]
  linarith

/-- A decimal in the rounding interval of a double is read as the double. -/
theorem ofDecimal_eq (hcanonical : (finite negative m e).Canonical) (hm : m ≠ 0)
    {coefficient : Nat} {exponent : Int}
    (h : Within m e (coefficient * 10 ^ exponent * unitsPerOne)) :
    ofDecimal negative coefficient exponent = finite negative m e := by
  have hnearest := ofDecimal_nearest negative coefficient exponent
  have hown := h.nearest hcanonical hm
  rw [if_pos ((mul_lt_mul_iff_of_pos_right unitsPerOne_pos).mp (h.lt_overflow hcanonical))]
    at hnearest
  rw [mul_div_cancel_right₀ _ unitsPerOne_pos.ne'] at hown
  exact hown.eq_finite hm hnearest

end

end Double

/-- The denominator of a power of ten. -/
def gridDen (grid : Int) : Nat := if grid < 0 then tenTo grid.natAbs else 1

/-- The numerator of a power of ten. -/
def gridNum (grid : Int) : Nat := if grid < 0 then 1 else tenTo grid.natAbs

theorem gridDen_pos (grid : Int) : 0 < gridDen grid := by
  rw [gridDen]
  split
  · exact tenTo_pos _
  · exact Nat.one_pos

theorem gridNum_pos (grid : Int) : 0 < gridNum grid := by
  rw [gridNum]
  split
  · exact Nat.one_pos
  · exact tenTo_pos _

theorem gridNum_eq (grid : Int) : (gridNum grid : ℚ) = gridDen grid * 10 ^ grid := by
  have hne (n : Nat) : (10 : ℚ) ^ n ≠ 0 := pow_ne_zero n (by norm_num)
  rw [gridNum, gridDen, tenTo_eq]
  split
  · have hgrid : grid = -(grid.natAbs : Int) := by omega
    rw [hgrid, zpow_neg, zpow_natCast, Int.natAbs_neg, Int.natAbs_natCast, Nat.cast_one]
    push_cast
    exact (mul_inv_cancel₀ (hne _)).symm
  · have hgrid : grid = (grid.natAbs : Int) := by omega
    rw [hgrid, zpow_natCast, Int.natAbs_natCast, Nat.cast_pow, Nat.cast_ofNat, Nat.cast_one,
      one_mul]

section

variable {num den : Nat}

theorem reaches_iff (hden : 0 < den) (grid : Int) : (if grid < 0 then den ≤ num * tenTo grid.natAbs
    else den * tenTo grid.natAbs ≤ num) ↔ (10 : ℚ) ^ grid ≤ num / den := by
  have hscale : (if grid < 0 then den ≤ num * tenTo grid.natAbs
      else den * tenTo grid.natAbs ≤ num) ↔ den * gridNum grid ≤ num * gridDen grid := by
    rw [gridNum, gridDen]
    split <;> simp
  have hpos : (0 : ℚ) < den := by exact_mod_cast hden
  have hgrid : (0 : ℚ) < gridDen grid := by exact_mod_cast gridDen_pos grid
  rw [hscale, le_div_iff₀ hpos, ← Nat.cast_le (α := ℚ), Nat.cast_mul, Nat.cast_mul, gridNum_eq,
    mul_left_comm, mul_comm (num : ℚ), mul_le_mul_iff_of_pos_left hgrid, mul_comm (den : ℚ)]

/-- A quotient lies between the powers of ten that the lengths of its parts give. -/
theorem quotient_bounds {k l : Nat} (hlow : 10 ^ k ≤ num) (hhigh : num < 10 ^ (k + 1))
    (hlow' : 10 ^ l ≤ den) (hhigh' : den < 10 ^ (l + 1)) :
    (10 : ℚ) ^ ((k : Int) - l - 1) ≤ num / den ∧
      (num : ℚ) / den < 10 ^ ((k : Int) - l + 1) := by
  have hten (n : Int) : (0 : ℚ) ≤ 10 ^ n := zpow_nonneg (by norm_num) n
  have hshift (n : Int) (j : Nat) : (10 : ℚ) ^ n * 10 ^ j = 10 ^ (n + j) := by
    rw [← zpow_natCast, ← zpow_add₀ (by norm_num)]
  have hpos : (0 : ℚ) < den := by exact_mod_cast (Nat.pow_pos (by omega)).trans_le hlow'
  constructor
  · rw [le_div_iff₀ hpos]
    calc (10 : ℚ) ^ ((k : Int) - l - 1) * den ≤ 10 ^ ((k : Int) - l - 1) * 10 ^ (l + 1) :=
          mul_le_mul_of_nonneg_left (by exact_mod_cast hhigh'.le) (hten _)
      _ = 10 ^ k := by
        rw [hshift, ← zpow_natCast]
        congr 1
        omega
      _ ≤ num := by exact_mod_cast hlow
  · rw [div_lt_iff₀ hpos]
    calc (num : ℚ) < 10 ^ (k + 1) := by exact_mod_cast hhigh
      _ = 10 ^ ((k : Int) - l + 1) * 10 ^ l := by
        rw [hshift, ← zpow_natCast]
        congr 1
        omega
      _ ≤ 10 ^ ((k : Int) - l + 1) * den :=
        mul_le_mul_of_nonneg_left (by exact_mod_cast hlow') (hten _)

/-- The leading digit of a quotient stands at the leading exponent. -/
theorem leadingExponent_bounds (hnum : num ≠ 0) (hden : den ≠ 0) :
    (10 : ℚ) ^ leadingExponent num den ≤ num / den ∧
      (num : ℚ) / den < 10 ^ (leadingExponent num den + 1) := by
  obtain ⟨k, hk, hlow, hhigh⟩ := Double.exists_length_repr hnum
  obtain ⟨l, hl, hlow', hhigh'⟩ := Double.exists_length_repr hden
  obtain ⟨hmore, hless⟩ := quotient_bounds hlow hhigh hlow' hhigh'
  have hguess : ((digitCount num : Int) - digitCount den) = (k : Int) - l := by
    rw [digitCount, digitCount, hk, hl]
    push_cast
    ring
  rw [leadingExponent, hguess]
  simp only [reaches_iff (Nat.pos_of_ne_zero hden)]
  split
  · next hle => exact ⟨hle, hless⟩
  · next hlt => exact ⟨hmore, by rw [sub_add_cancel]; exact not_le.mp hlt⟩

end

section

variable {m e : Nat} {grid : Int}

theorem roundingInterval_eq (m e : Nat) : roundingInterval m e =
    (4 * (m * 2 ^ e) - Double.halfGap m e, 4 * (m * 2 ^ e) + 2 * 2 ^ e, m % 2 == 0) := by
  rw [roundingInterval, Double.halfGap, twoTo_eq, twoTo_eq, Nat.mul_assoc]
  simp

/-- The test of a point of a decimal grid. -/
def onPoint (m e : Nat) (grid : Int) (candidate : Nat) : Bool :=
  let (low, high, closed) := roundingInterval m e
  let point := 4 * candidate * (unitsPerOne * gridNum grid)
  if closed then low * gridDen grid ≤ point && point ≤ high * gridDen grid
  else low * gridDen grid < point && point < high * gridDen grid

/-- The test of a grid point is whether it lies in the rounding interval. -/
theorem onPoint_iff (hm : m ≠ 0) (candidate : Nat) : onPoint m e grid candidate = true ↔
    Double.Within m e (candidate * 10 ^ grid * unitsPerOne) := by
  have hden : (0 : ℚ) < gridDen grid := by exact_mod_cast gridDen_pos grid
  generalize hr : (candidate * 10 ^ grid * unitsPerOne : ℚ) = r
  have hpoint : ((4 * candidate * (unitsPerOne * gridNum grid) : ℕ) : ℚ) =
      4 * r * gridDen grid := by
    rw [Nat.cast_mul, Nat.cast_mul, Nat.cast_mul, gridNum_eq, ← hr]
    push_cast
    ring
  have hlow : ((4 * (m * 2 ^ e) - Double.halfGap m e : ℕ) : ℚ) =
      4 * (m * 2 ^ e) - Double.halfGap m e := by
    rw [Nat.cast_sub (Double.halfGap_le hm)]
    push_cast
    rfl
  have hhigh : ((4 * (m * 2 ^ e) + 2 * 2 ^ e : ℕ) : ℚ) = 4 * (m * 2 ^ e) + 2 * 2 ^ e := by
    push_cast
    rfl
  rw [onPoint, roundingInterval_eq]
  dsimp only
  by_cases heven : Even m
  · rw [if_pos (by simpa using Nat.even_iff.mp heven), Bool.and_eq_true, decide_eq_true_eq,
      decide_eq_true_eq, ← Nat.cast_le (α := ℚ), ← Nat.cast_le (α := ℚ), hpoint, Nat.cast_mul,
      Nat.cast_mul, hlow, hhigh, mul_le_mul_iff_of_pos_right hden, mul_le_mul_iff_of_pos_right hden]
    exact ⟨fun h => ⟨h.1, h.2, fun hodd => absurd heven hodd⟩, fun h => ⟨h.low, h.high⟩⟩
  · rw [if_neg (by simpa using Nat.odd_iff.mp (Nat.not_even_iff_odd.mp heven)), Bool.and_eq_true,
      decide_eq_true_eq, decide_eq_true_eq, ← Nat.cast_lt (α := ℚ), ← Nat.cast_lt (α := ℚ), hpoint,
      Nat.cast_mul, Nat.cast_mul, hlow, hhigh, mul_lt_mul_iff_of_pos_right hden,
      mul_lt_mul_iff_of_pos_right hden]
    exact ⟨fun h => ⟨h.1.le, h.2.le, fun _ => h⟩, fun h => h.inner heven⟩

theorem onGrid_eq (m e : Nat) (grid : Int) : onGrid m e grid =
    let value := m * 2 ^ e * gridDen grid
    let step := unitsPerOne * gridNum grid
    let nearest := roundDiv value step
    let other := if nearest = value / step then value / step + 1 else value / step
    if nearest != 0 && onPoint m e grid nearest then some ⟨nearest, grid⟩
    else if other != 0 && onPoint m e grid other then some ⟨other, grid⟩
    else none := rfl

/-- The decimal is not zero and lies in the rounding interval of the double. -/
def Scientific.Within (m e : Nat) (d : Scientific) : Prop :=
  d.coefficient ≠ 0 ∧ Double.Within m e (d.coefficient * 10 ^ d.exponent * unitsPerOne)

theorem onGrid_within (hm : m ≠ 0) {d : Scientific} (h : onGrid m e grid = some d) :
    d.Within m e := by
  have htried {nearest other : Nat} (h : (if nearest != 0 && onPoint m e grid nearest then
      some (Scientific.mk nearest grid) else if other != 0 && onPoint m e grid other then
      some (Scientific.mk other grid) else none) = some d) : d.Within m e := by
    split at h
    · next hcond =>
      cases h
      rw [Bool.and_eq_true, bne_iff_ne, onPoint_iff hm] at hcond
      exact hcond
    split at h
    · next hcond =>
      cases h
      rw [Bool.and_eq_true, bne_iff_ne, onPoint_iff hm] at hcond
      exact hcond
    · cases h
  rw [onGrid_eq] at h
  exact htried h

/-- Half a gap is more than a share of the double that no decimal of seventeen digits misses. -/
theorem lt_halfGap (h : m < 2 ^ 53) :
    (m * 2 ^ e : ℚ) / 5000000000000000 < Double.halfGap m e ∧
      (m * 2 ^ e : ℚ) / 5000000000000000 < 2 * 2 ^ e := by
  have hpower : (0 : ℚ) < 2 ^ e := by positivity
  have hm : (m : ℚ) < 2 ^ 53 := by exact_mod_cast h
  have hwide : (m * 2 ^ e : ℚ) / 5000000000000000 < 2 * 2 ^ e := by
    rw [div_lt_iff₀ (by norm_num)]
    nlinarith
  refine ⟨?_, hwide⟩
  rw [Double.halfGap]
  split
  · next hcond =>
    rw [hcond.1, div_lt_iff₀ (by norm_num)]
    push_cast
    nlinarith
  · push_cast
    exact hwide

/-- The nearest point of a grid is at most half a step away. -/
theorem abs_sub_nearest_le (m e : Nat) (grid : Int) :
    |(m * 2 ^ e : ℚ) - roundDiv (m * 2 ^ e * gridDen grid) (unitsPerOne * gridNum grid) *
      10 ^ grid * unitsPerOne| ≤ 1 / 2 * (10 ^ grid * unitsPerOne) := by
  have hunit := Double.unitsPerOne_pos
  have hden : (0 : ℚ) < gridDen grid := by exact_mod_cast gridDen_pos grid
  have hstep : (0 : ℚ) < 10 ^ grid * unitsPerOne := mul_pos (zpow_pos (by norm_num) grid) hunit
  obtain ⟨hnear, -⟩ := roundDiv_near (m * 2 ^ e * gridDen grid)
    (Nat.mul_pos (Nat.cast_pos.mp hunit) (gridNum_pos grid))
  have hquotient : ((m * 2 ^ e * gridDen grid : ℕ) : ℚ) / (unitsPerOne * gridNum grid : ℕ) =
      m * 2 ^ e / (10 ^ grid * unitsPerOne) := by
    rw [Nat.cast_mul, Nat.cast_mul, Nat.cast_mul unitsPerOne, gridNum_eq]
    push_cast
    field_simp
  rw [hquotient] at hnear
  generalize roundDiv (m * 2 ^ e * gridDen grid) (unitsPerOne * gridNum grid) = nearest at hnear ⊢
  calc |(m * 2 ^ e : ℚ) - nearest * 10 ^ grid * unitsPerOne|
      = |(m * 2 ^ e / (10 ^ grid * unitsPerOne) - nearest : ℚ) * (10 ^ grid * unitsPerOne)| := by
        rw [sub_mul, div_mul_cancel₀ _ hstep.ne', mul_assoc]
    _ = |(m * 2 ^ e / (10 ^ grid * unitsPerOne) - nearest : ℚ)| * (10 ^ grid * unitsPerOne) := by
        rw [abs_mul, abs_of_pos hstep]
    _ ≤ 1 / 2 * (10 ^ grid * unitsPerOne) := mul_le_mul_of_nonneg_right hnear hstep.le

/-- Seventeen digits suffice: the grid is fine enough for a point in the interval. -/
theorem onGrid_isSome {negative : Bool} (h : (Double.finite negative m e).Canonical) (hm : m ≠ 0) :
    (onGrid m e (leadingExponent (m * 2 ^ e) unitsPerOne - 16)).isSome := by
  obtain ⟨-, hmantissa, -, -⟩ := h
  have hunit := Double.unitsPerOne_pos
  have hsize : m * 2 ^ e ≠ 0 := Nat.mul_ne_zero hm (Nat.two_pow_pos e).ne'
  obtain ⟨hleading, -⟩ := leadingExponent_bounds hsize (Nat.cast_pos.mp hunit).ne'
  generalize leadingExponent (m * 2 ^ e) unitsPerOne = leading at hleading ⊢
  generalize hgrid : leading - 16 = grid
  have hclose := abs_sub_nearest_le m e grid
  generalize hnearest : roundDiv (m * 2 ^ e * gridDen grid) (unitsPerOne * gridNum grid) = nearest
    at hclose
  have hstep : (0 : ℚ) < 10 ^ grid * unitsPerOne := mul_pos (zpow_pos (by norm_num) grid) hunit
  have hfine : 10000000000000000 * (10 ^ grid * unitsPerOne) ≤ (m * 2 ^ e : ℚ) := by
    have hsixteen : (10 : ℚ) ^ leading = 10 ^ grid * 10 ^ 16 := by
      rw [← zpow_natCast, ← zpow_add₀ (by norm_num), ← hgrid, Nat.cast_ofNat, sub_add_cancel]
    rw [hsixteen, le_div_iff₀ hunit] at hleading
    push_cast at hleading
    linarith
  have hne : nearest ≠ 0 := by
    rintro rfl
    rw [Nat.cast_zero, zero_mul, zero_mul, sub_zero] at hclose
    linarith [le_abs_self (m * 2 ^ e : ℚ)]
  have hinside : onPoint m e grid nearest = true := by
    obtain ⟨hgap, hwide⟩ := @lt_halfGap m e hmantissa
    obtain ⟨hlow, hhigh⟩ := abs_le.mp hclose
    rw [onPoint_iff hm]
    exact ⟨by linarith, by linarith, fun _ => ⟨by linarith, by linarith⟩⟩
  rw [onGrid_eq]
  dsimp only
  rw [hnearest, if_pos (by rw [Bool.and_eq_true, bne_iff_ne]; exact ⟨hne, hinside⟩)]
  rfl

/-- Zeros at the end of the coefficient do not change the value. -/
theorem stripZeros_within {d : Scientific} (h : d.Within m e) (fuel : Nat) :
    (d.stripZeros fuel).Within m e := by
  induction fuel generalizing d with
  | zero => exact h
  | succ fuel ih =>
    rw [Scientific.stripZeros]
    split
    · next hcond =>
      rw [Bool.and_eq_true, bne_iff_ne, beq_iff_eq] at hcond
      obtain ⟨coefficient, exponent⟩ := d
      obtain ⟨rest, rfl⟩ := Nat.dvd_of_mod_eq_zero hcond.2
      have hrest : 10 * rest / 10 = rest := Nat.mul_div_cancel_left rest (by omega)
      refine ih ⟨?_, ?_⟩
      · dsimp only at hcond ⊢
        omega
      · have hvalue : (rest : ℚ) * 10 ^ (exponent + 1) = (10 * rest : ℕ) * 10 ^ exponent := by
          rw [zpow_add_one₀ (by norm_num)]
          push_cast
          ring
        dsimp only
        rw [hrest, hvalue]
        exact h.2
    · exact h

theorem shortest_within {negative : Bool} (h : (Double.finite negative m e).Canonical)
    (hm : m ≠ 0) : (shortest m e).Within m e := by
  rw [shortest]
  cases hfound : (List.range 17).findSome? fun (n : Nat) =>
      onGrid m e (leadingExponent (m * twoTo e) unitsPerOne - n) with
  | none =>
    have hnone := List.findSome?_eq_none_iff.mp hfound 16 (List.mem_range.mpr (by omega))
    have hsome := onGrid_isSome h hm
    rw [twoTo_eq] at hnone
    rw [Option.isSome_iff_ne_none] at hsome
    exact absurd hnone hsome
  | some d =>
    obtain ⟨n, -, hn⟩ := List.exists_of_findSome?_eq_some hfound
    exact stripZeros_within (onGrid_within hm hn) 20

/-- The shortest decimal of a double, and every other decimal of the same value, is read as the
double. -/
theorem ofDecimal_of_shortest {negative : Bool} (h : (Double.finite negative m e).Canonical)
    (hm : m ≠ 0) {coefficient : Nat} {exponent : Int}
    (hvalue : (coefficient : ℚ) * 10 ^ exponent =
      (shortest m e).coefficient * 10 ^ (shortest m e).exponent) :
    Double.ofDecimal negative coefficient exponent = .finite negative m e := by
  have hwithin := (shortest_within h hm).2
  rw [← hvalue] at hwithin
  exact Double.ofDecimal_eq h hm hwithin

end

end QueryGate.Number
