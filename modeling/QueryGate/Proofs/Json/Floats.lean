import QueryGate.Proofs.Json.RoundTrip
import QueryGate.Proofs.Number.Numeral
import QueryGate.Proofs.Number.Shortest

/-!
# Floats are read back

The text of a finite float has a point or an exponent, so that it is not read as an integer, and
is a decimal of the same value as the shortest one. So every layout of floats is read back, and
the documents whose floats are finite and whose objects have no key twice are read back under
every regular style.
-/

namespace QueryGate.Json

open QueryGate.Number

/-- The sign of a number that is written without a plus. -/
def signText (negative : Bool) : List Char := if negative then ['-'] else []

theorem signText_sign (negative : Bool) : SignText (signText negative) negative := by
  cases negative
  · exact .absent
  · exact .minus

section

variable {negative : Bool} {cs rest : List Char} {x : Double}

/-- A number whose digits have no superfluous zero in front is well formed, also behind a sign. -/
theorem isNumberText_signed (negative : Bool) (hne : cs ≠ []) (hcs : ∀ c ∈ cs, c.isDigit = true)
    (hwhole : cs.length = 1 ∨ cs.head? ≠ some '0') (hrest : ∀ c ∈ rest.head?, c.isDigit = false)
    (hafter : ∀ after, rest = '.' :: after → ∃ c ∈ after.head?, c.isDigit = true) :
    isNumberText (signText negative ++ (cs ++ rest)) = true := by
  have hfits : (!cs.isEmpty && (cs.length == 1 || cs.head? != some '0')) = true := by
    simpa [hne] using hwhole
  have hfraction (after : List Char) (heq : rest = '.' :: after) :
      (!cs.isEmpty && (cs.length == 1 || cs.head? != some '0') &&
        !(after.takeWhile Char.isDigit).isEmpty) = true := by
    obtain ⟨c, hc, hdigit⟩ := hafter after heq
    obtain ⟨more, rfl⟩ := List.head?_eq_some_iff.mp hc
    rw [hfits, List.takeWhile_cons_of_pos hdigit]
    rfl
  have htake := takeWhile_digits hcs hrest
  have hdrop := dropWhile_digits hcs hrest
  cases negative with
  | true =>
    change isNumberText ('-' :: (cs ++ rest)) = true
    unfold isNumberText
    simp only [htake, hdrop]
    split
    · exact hfraction _ rfl
    · exact hfits
  | false =>
    change isNumberText (cs ++ rest) = true
    unfold isNumberText
    split
    · next heq =>
      obtain ⟨c, more, rfl⟩ := List.exists_cons_of_ne_nil hne
      obtain rfl := (List.cons.inj heq).1
      exact absurd (hcs '-' List.mem_cons_self) (by decide)
    · dsimp only
      rw [htake, hdrop]
      split
      · exact hfraction _ rfl
      · exact hfits

theorem ofNumberText?_signed (negative : Bool) (hne : cs ≠ []) (hcs : ∀ c ∈ cs, c.isDigit = true)
    (hwhole : cs.length = 1 ∨ cs.head? ≠ some '0') (hrest : ∀ c ∈ rest.head?, c.isDigit = false)
    (hafter : ∀ after, rest = '.' :: after → ∃ c ∈ after.head?, c.isDigit = true)
    (hmore : rest ≠ []) (hread : readDecimal negative (cs ++ rest) = some x) :
    ofNumberText? (signText negative ++ (cs ++ rest)) = some (.float x) := by
  have hhead : ∀ c ∈ (cs ++ rest).head?, c ≠ '+' ∧ c ≠ '-' := by
    intro c hc
    rw [List.head?_append_of_ne_nil _ hne] at hc
    exact ne_sign_of_isDigit (hcs c (List.mem_of_mem_head? hc))
  have hall : (cs ++ rest).all Char.isDigit = false := by
    obtain ⟨c, rest, rfl⟩ := List.exists_cons_of_ne_nil hmore
    rw [List.all_eq_false]
    exact ⟨c, by simp, by simp [hrest c rfl]⟩
  rw [ofNumberText?, isNumberText_signed negative hne hcs hwhole hrest hafter,
    (signText_sign negative).readSign hhead]
  simp [hall, hread]

/-- A number with a point is read by its digits and the exponent behind them. -/
theorem ofNumberText?_fraction (negative : Bool) {more : List Char} {exponent : Int} (hne : cs ≠ [])
    (hcs : ∀ c ∈ cs, c.isDigit = true) (hwhole : cs.length = 1 ∨ cs.head? ≠ some '0')
    (hmore : ∀ c ∈ more, c.isDigit = true) (hmorene : more ≠ [])
    (hrest : ∀ c ∈ rest.head?, c.isDigit = false) (hexponent : readExponent rest = some exponent) :
    ofNumberText? (signText negative ++ (cs ++ '.' :: (more ++ rest))) =
      some (.float (.ofDecimal negative (digitsValue (cs ++ more)) (exponent - more.length))) := by
  refine ofNumberText?_signed negative hne hcs hwhole (by rintro c ⟨⟩; rfl) ?_
    (List.cons_ne_nil _ _) ?_
  · rintro after heq
    obtain rfl := (List.cons.inj heq).2
    obtain ⟨c, more, rfl⟩ := List.exists_cons_of_ne_nil hmorene
    exact ⟨c, rfl, hmore c List.mem_cons_self⟩
  · rw [readDecimal_fraction negative (.inl hne) hcs hmore hrest, hexponent]
    rfl

end

section

variable {coefficient : Nat}

theorem isDigit_of_mem_replicate {n : Nat} : ∀ c ∈ List.replicate n '0', c.isDigit = true := by
  intro c hc
  rw [List.eq_of_mem_replicate hc]
  rfl

theorem toList_zeros (n : Nat) : (zeros n).toList = List.replicate n '0' := String.toList_ofList

theorem digitsValue_zeros_append (n : Nat) (cs : List Char) :
    digitsValue (List.replicate n '0' ++ cs) = digitsValue cs := by
  change Nat.ofDigitChars 10 _ 0 = Nat.ofDigitChars 10 _ 0
  rw [Nat.ofDigitChars_append, Nat.ofDigitChars_replicate_zero, Nat.mul_zero]

theorem digitsValue_append_zeros (n : Nat) (cs : List Char) :
    digitsValue (cs ++ List.replicate n '0') = 10 ^ n * digitsValue cs := by
  change Nat.ofDigitChars 10 _ 0 = 10 ^ n * Nat.ofDigitChars 10 _ 0
  rw [Nat.ofDigitChars_append, Nat.ofDigitChars_replicate_zero]

/-- The digits of a number that is not zero. -/
structure Significant (ds : List Char) : Prop where
  ne_nil : ds ≠ []
  digits : ∀ c ∈ ds, c.isDigit = true
  head : ds.head? ≠ some '0'

theorem significant_toDigits (h : coefficient ≠ 0) : Significant (Nat.toDigits 10 coefficient) :=
  ⟨Nat.toDigits_ne_nil, fun _ hc => isDigit_of_mem_decimal hc,
    head?_toDigits_ne (Nat.pos_of_ne_zero h)⟩

theorem length_repr (n : Nat) : (Nat.repr n).length = (Nat.toDigits 10 n).length := by
  rw [← String.length_toList, Nat.toList_repr]

section

variable {ds : List Char}

theorem Significant.ofNumberText?_below (h : Significant ds) (negative : Bool) (count : Nat) :
    ofNumberText? (signText negative ++ ('0' :: '.' :: (List.replicate count '0' ++ ds))) =
      some (.float (.ofDecimal negative (digitsValue ds) (-(count + ds.length : Nat)))) := by
  have hread := @ofNumberText?_fraction ['0'] [] negative (List.replicate count '0' ++ ds) 0
    (List.cons_ne_nil _ _) (List.forall_mem_singleton.mpr rfl) (.inl rfl)
    (List.forall_mem_append.mpr ⟨isDigit_of_mem_replicate, h.digits⟩)
    (List.append_ne_nil_of_right_ne_nil _ h.ne_nil) (fun _ hc => nomatch hc) rfl
  have hvalue : digitsValue (['0'] ++ (List.replicate count '0' ++ ds)) = digitsValue ds :=
    (digitsValue_zeros_append 1 _).trans (digitsValue_zeros_append count ds)
  rw [hvalue, List.append_nil, List.length_append, List.length_replicate, zero_sub] at hread
  exact hread

/-- The point stands behind the digits, with zeros between, and a zero behind it. -/
theorem Significant.ofNumberText?_above (h : Significant ds) (negative : Bool) (count : Nat) :
    ofNumberText? (signText negative ++ (ds ++ List.replicate count '0' ++ ['.', '0'])) =
      some (.float (.ofDecimal negative (10 ^ (count + 1) * digitsValue ds) (-1))) := by
  have hread := @ofNumberText?_fraction (ds ++ List.replicate count '0') [] negative ['0'] 0
    (List.append_ne_nil_of_left_ne_nil h.ne_nil _)
    (List.forall_mem_append.mpr ⟨h.digits, isDigit_of_mem_replicate⟩)
    (.inr (by rw [List.head?_append_of_ne_nil _ h.ne_nil]; exact h.head))
    (List.forall_mem_singleton.mpr rfl) (List.cons_ne_nil _ _) (fun _ hc => nomatch hc) rfl
  have hvalue : digitsValue (ds ++ List.replicate count '0' ++ ['0']) =
      10 ^ (count + 1) * digitsValue ds := by
    rw [← digitsValue_append_zeros, List.append_assoc, ← List.replicate_succ']
  rw [hvalue] at hread
  exact hread

/-- The point stands among the digits. -/
theorem Significant.ofNumberText?_among (h : Significant ds) (negative : Bool) {whole : Nat}
    (hfront : whole ≠ 0) (hback : whole < ds.length) :
    ofNumberText? (signText negative ++ (ds.take whole ++ '.' :: ds.drop whole)) =
      some (.float (.ofDecimal negative (digitsValue ds) (-(ds.length - whole : Nat)))) := by
  have hread := @ofNumberText?_fraction (ds.take whole) [] negative (ds.drop whole) 0
    (by rw [ne_eq, List.take_eq_nil_iff, not_or]; exact ⟨hfront, h.ne_nil⟩)
    (fun c hc => h.digits c (List.mem_of_mem_take hc))
    (.inr (by rw [List.head?_take, if_neg hfront]; exact h.head))
    (fun c hc => h.digits c (List.mem_of_mem_drop hc))
    (by rw [ne_eq, List.drop_eq_nil_iff]; exact Nat.not_le.mpr hback) (fun _ hc => nomatch hc) rfl
  rw [List.take_append_drop, List.length_drop, List.append_nil, zero_sub] at hread
  exact hread

end

/-- A decimal in positional notation is read as a decimal of the same value. -/
theorem ofNumberText?_positional (negative : Bool) (h : coefficient ≠ 0) (leading : Int) :
    ∃ (c : Nat) (e : Int), (c : ℚ) * 10 ^ e = coefficient *
        10 ^ (leading + 1 - ((Nat.repr coefficient).length : Int)) ∧
      ofNumberText? (signText negative ++ (positional (Nat.repr coefficient) leading).toList) =
        some (.float (.ofDecimal negative c e)) := by
  have hdigits := significant_toDigits h
  have hvalue := digitsValue_toDigits coefficient
  rw [positional, length_repr]
  split
  · next hneg =>
    rw [String.toList_append, String.toList_append, toList_zeros, Nat.toList_repr]
    generalize Nat.toDigits 10 coefficient = ds at *
    refine ⟨_, _, ?_, hdigits.ofNumberText?_below negative _⟩
    rw [hvalue]
    congr 2
    omega
  · next hpos =>
    dsimp only
    split
    · next hshort =>
      rw [String.toList_append, String.toList_append, toList_zeros, Nat.toList_repr]
      generalize Nat.toDigits 10 coefficient = ds at *
      generalize hcount : leading.natAbs + 1 - ds.length = count
      refine ⟨_, _, ?_, hdigits.ofNumberText?_above negative count⟩
      have hexponent : leading + 1 - (ds.length : Int) = count := by omega
      rw [hvalue, hexponent, zpow_natCast, Nat.cast_mul, Nat.cast_pow, pow_succ]
      norm_num
      ring
    · next hlong =>
      simp only [String.toList_append, String.toList_ofList, List.append_assoc, Nat.toList_repr]
      generalize Nat.toDigits 10 coefficient = ds at *
      refine ⟨_, _, ?_, hdigits.ofNumberText?_among negative (Nat.succ_ne_zero _)
        (Nat.lt_of_not_le hlong)⟩
      rw [hvalue]
      congr 2
      omega

theorem toList_padded (width n : Nat) : (padded width n).toList =
    List.replicate (width - (Nat.repr n).length) '0' ++ Nat.toDigits 10 n := by
  rw [padded, String.toList_append, toList_zeros, Nat.toList_repr]

/-- The exponent with its sign is read as the exponent. -/
theorem readExponent_padded (width : Nat) (leading : Int) :
    readExponent ('e' :: ((if leading < 0 then "-" else "+").toList ++
      (padded width leading.natAbs).toList)) = some leading := by
  have hdigits : ∀ c ∈ (padded width leading.natAbs).toList, c.isDigit = true := by
    rw [toList_padded]
    exact List.forall_mem_append.mpr ⟨isDigit_of_mem_replicate, fun c hc =>
      isDigit_of_mem_decimal hc⟩
  have hne : (padded width leading.natAbs).toList ≠ [] := by
    rw [toList_padded]
    exact List.append_ne_nil_of_right_ne_nil _ Nat.toDigits_ne_nil
  have hvalue : digitsValue (padded width leading.natAbs).toList = leading.natAbs := by
    rw [toList_padded, digitsValue_zeros_append, digitsValue_toDigits]
  generalize (padded width leading.natAbs).toList = ds at *
  generalize hsize : leading.natAbs = size at *
  have hall : ds.all Char.isDigit = true := List.all_eq_true.mpr hdigits
  have hread {sign : List Char} {below : Bool} (hsign : SignText sign below)
      (hleading : (if below then -(size : Int) else size) = leading) :
      readExponent ('e' :: (sign ++ ds)) = some leading := by
    rw [readExponent,
      hsign.readSign fun c hc => ne_sign_of_isDigit (hdigits c (List.mem_of_mem_head? hc))]
    simp [hne, hall, hvalue, hleading]
  split
  · next hneg => exact hread .minus (by rw [if_pos rfl]; omega)
  · next hpos => exact hread .plus (by rw [if_neg Bool.false_ne_true]; omega)

/-- A decimal with an exponent is read as a decimal of the same value. -/
theorem ofNumberText?_withExponent (negative : Bool) (coefficient : Nat) (leading : Int)
    (width : Nat) :
    ∃ (c : Nat) (e : Int), (c : ℚ) * 10 ^ e = coefficient *
        10 ^ (leading + 1 - ((Nat.repr coefficient).length : Int)) ∧
      ofNumberText? (signText negative ++
          (withExponent (Nat.repr coefficient) leading width).toList) =
        some (.float (.ofDecimal negative c e)) := by
  have hdigits : ∀ c ∈ Nat.toDigits 10 coefficient, c.isDigit = true :=
    fun c hc => isDigit_of_mem_decimal hc
  have hne : Nat.toDigits 10 coefficient ≠ [] := Nat.toDigits_ne_nil
  have hvalue := digitsValue_toDigits coefficient
  have hexponent := readExponent_padded width leading
  rw [withExponent, length_repr, Nat.toList_repr]
  generalize Nat.toDigits 10 coefficient = ds at *
  obtain ⟨first, more, rfl⟩ := List.exists_cons_of_ne_nil hne
  rw [List.forall_mem_cons] at hdigits
  have hfirst : ∀ c ∈ [first], c.isDigit = true := List.forall_mem_singleton.mpr hdigits.1
  -- The text ends in the exponent, which does not go on with the digits before it.
  simp only [String.toList_append, String.toList_ofList, List.append_assoc, List.take_succ_cons,
    List.take_zero, List.drop_succ_cons, List.drop_zero]
  have hmark : "e".toList = ['e'] := by decide
  simp only [hmark, List.cons_append, List.nil_append]
  generalize hrest : 'e' :: ((if leading < 0 then "-" else "+").toList ++
    (padded width leading.natAbs).toList) = rest at hexponent ⊢
  have hends : EndsDigits rest := by
    subst hrest
    rintro c ⟨⟩
    decide
  have hend : ∀ c ∈ rest.head?, c.isDigit = false := fun c hc => (hends c hc).1
  cases more with
  | nil =>
    have hread := readDecimal_whole negative (List.cons_ne_nil first []) hfirst hends
    rw [hexponent, hvalue] at hread
    refine ⟨coefficient, leading, ?_, ?_⟩
    · rw [List.length_singleton, Nat.cast_one, add_sub_cancel_right]
    · have hafter : ∀ after, rest = '.' :: after → ∃ c ∈ after.head?, c.isDigit = true := by
        rintro after rfl
        exact absurd rfl (hends '.' rfl).2
      have hpoint : (if ([] : List Char).isEmpty then "" else ".").toList = [] := by decide
      rw [hpoint, List.nil_append, List.nil_append]
      exact ofNumberText?_signed negative (List.cons_ne_nil first []) hfirst (.inl rfl) hend hafter
        (by rw [← hrest]; exact List.cons_ne_nil _ _) hread
  | cons second more =>
    have hread := ofNumberText?_fraction negative (List.cons_ne_nil first []) hfirst (.inl rfl)
      hdigits.2 (List.cons_ne_nil second more) hend hexponent
    rw [List.singleton_append, List.singleton_append, hvalue] at hread
    have hpoint : (if (second :: more).isEmpty then "" else ".").toList = ['.'] := by
      rw [List.isEmpty_cons]
      decide
    rw [hpoint]
    refine ⟨_, _, ?_, hread⟩
    congr 2
    simp only [List.length_cons]
    omega

/-- The text of a finite float is read as the float. -/
theorem ofNumberText?_write (layout : Layout) {x : Double} (h : x.Canonical) :
    ofNumberText? (layout.write x).toList = some (.float x) := by
  obtain ⟨negative, hmantissa, hexponent, hnormal⟩ := id h
  rename_i m e
  have hsign : (if negative then "-" else "").toList = signText negative := by
    cases negative <;> decide
  have hzero : ofNumberText? (signText negative ++ "0.0".toList) =
      some (.float (.finite negative 0 0)) := by
    cases negative <;> rfl
  simp only [Layout.write]
  split
  · next hm =>
    subst hm
    obtain rfl : e = 0 := hnormal.resolve_right (by decide)
    rw [String.toList_append, hsign, hzero]
  · next hm =>
    have hdecimal {c : Nat} {k : Int} (hvalue : (c : ℚ) * 10 ^ k = (shortest m e).coefficient *
        10 ^ ((shortest m e).exponent + (Nat.repr (shortest m e).coefficient).length - 1 + 1 -
          ((Nat.repr (shortest m e).coefficient).length : Int))) :
        Double.ofDecimal negative c k = .finite negative m e := by
      rw [sub_add_cancel, add_sub_cancel_right] at hvalue
      exact ofDecimal_of_shortest h hm hvalue
    have hne := (shortest_within h hm).1
    rw [String.toList_append, hsign]
    split
    · obtain ⟨c, k, hvalue, hread⟩ := ofNumberText?_positional negative hne _
      rw [hread, hdecimal hvalue]
    · obtain ⟨c, k, hvalue, hread⟩ := ofNumberText?_withExponent negative _ _ _
      rw [hread, hdecimal hvalue]

theorem readable_float_of_canonical (style : Style) {x : Double} (h : x.Canonical) :
    Readable style (.float x) := by
  have hfinite : x.isFinite = true := by
    cases h
    rfl
  refine ⟨hfinite, ?_⟩
  rw [ofText_eq_ofNumberText? (numberText_write style.float hfinite), ofNumberText?_write _ h]

end

end QueryGate.Json
