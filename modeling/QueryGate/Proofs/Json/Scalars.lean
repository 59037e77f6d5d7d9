import Mathlib.Data.Nat.Digits.Defs
import QueryGate.Json.Document
import QueryGate.Json.Read
import QueryGate.Proofs.Number.Integer

/-!
# Numbers and quoted texts are read back

The text of a number consists of characters that no other part of a document starts with, so that
it is read to its end. An integer that is not too long is read back as it is.

Whatever characters a style escapes beyond those that must be, a quoted text is read as that text,
with its stray bytes, and reading stops at its closing quote: nothing in the text ends the string
early.
-/

namespace QueryGate.Json

open QueryGate.Number QueryGate.Text

/-- The text consists of characters that numbers are written with. -/
def NumberText (cs : List Char) : Prop := ∀ c ∈ cs, isNumberChar c = true

instance : DecidablePred NumberText := fun cs =>
  decidable_of_iff (cs.all isNumberChar = true) List.all_eq_true

theorem NumberText.mono {cs part : List Char} (h : NumberText cs) (hpart : part ⊆ cs) :
    NumberText part := fun c hc => h c (hpart hc)

theorem isNumberChar_of_isDigit {c : Char} (h : c.isDigit = true) : isNumberChar c = true := by
  simp [isNumberChar, h]

@[simp] theorem numberText_append {cs more : List Char} :
    NumberText (cs ++ more) ↔ NumberText cs ∧ NumberText more := List.forall_mem_append

@[simp] theorem numberText_ofList {cs : List Char} :
    NumberText (String.ofList cs).toList ↔ NumberText cs := by
  rw [String.toList_ofList]

theorem numberText_repr (n : Nat) : NumberText (Nat.repr n).toList := by
  intro c hc
  rw [Nat.toList_repr] at hc
  exact isNumberChar_of_isDigit (isDigit_of_mem_decimal hc)

theorem numberText_zeros (n : Nat) : NumberText (zeros n).toList := by
  intro c hc
  rw [zeros, String.toList_ofList] at hc
  rw [List.eq_of_mem_replicate hc]
  rfl

theorem numberText_positional {digits : String} (h : NumberText digits.toList) (leading : Int) :
    NumberText (positional digits leading).toList := by
  have hzero : NumberText "0.".toList := by decide
  have hpoint : NumberText ".".toList := by decide
  have hfraction : NumberText ".0".toList := by decide
  rw [positional]
  split
  · simp only [String.toList_append, numberText_append]
    exact ⟨⟨hzero, numberText_zeros _⟩, h⟩
  · dsimp only
    split
    · simp only [String.toList_append, numberText_append]
      exact ⟨⟨h, numberText_zeros _⟩, hfraction⟩
    · simp only [String.toList_append, numberText_append, numberText_ofList]
      exact ⟨⟨h.mono (List.take_subset _ _), hpoint⟩, h.mono (List.drop_subset _ _)⟩

theorem numberText_withExponent {digits : String} (h : NumberText digits.toList) (leading : Int)
    (exponentDigits : Nat) : NumberText (withExponent digits leading exponentDigits).toList := by
  have hmark : NumberText "e".toList := by decide
  have hpoint (b : Bool) : NumberText (if b then "" else ".").toList := by revert b; decide
  have hsign (c : Prop) [Decidable c] : NumberText (if c then "-" else "+").toList := by
    split <;> decide
  rw [withExponent]
  simp only [String.toList_append, numberText_append, numberText_ofList, padded]
  exact ⟨⟨⟨⟨⟨h.mono (List.take_subset _ _), hpoint _⟩, h.mono (List.drop_subset _ _)⟩, hmark⟩,
    hsign _⟩, numberText_zeros _, numberText_repr _⟩

/-- A finite float is written with the characters of numbers. -/
theorem numberText_write (layout : Layout) {x : Double} (h : x.isFinite = true) :
    NumberText (layout.write x).toList := by
  cases x with
  | nan => cases h
  | infinity negative => cases h
  | finite negative mantissa exponent =>
    have hsign : NumberText (if negative then "-" else "").toList := by cases negative <;> decide
    have hzero : NumberText "0.0".toList := by decide
    simp only [Layout.write]
    split
    · simp only [String.toList_append, numberText_append]
      exact ⟨hsign, hzero⟩
    · rw [String.toList_append, numberText_append]
      refine ⟨hsign, ?_⟩
      split
      · exact numberText_positional (numberText_repr _) _
      · exact numberText_withExponent (numberText_repr _) _ _

theorem numberText_toString (n : Int) : NumberText (toString n).toList := by
  rw [toList_toString, numberText_append]
  refine ⟨?_, fun c hc => isNumberChar_of_isDigit (isDigit_of_mem_decimal hc)⟩
  split <;> decide

/-- Only zero is written with a zero in front. -/
theorem head?_toDigits_ne {m : Nat} (h : 0 < m) : (Nat.toDigits 10 m).head? ≠ some '0' := by
  induction m using Nat.strongRecOn with
  | ind m ih =>
    rw [Nat.toDigits_eq_if (by omega)]
    split
    · next hsmall =>
      have hdigit : ∀ d < 10, 0 < d → Nat.digitChar d ≠ '0' := by decide
      simpa using hdigit m hsmall h
    · next hlarge =>
      have hfront := ih (m / 10) (by omega) (by omega)
      cases hdigits : Nat.toDigits 10 (m / 10) with
      | nil => exact absurd hdigits Nat.toDigits_ne_nil
      | cons d ds => rwa [hdigits] at hfront

/-- The digits of a natural number are well formed, also behind a minus sign. -/
theorem isNumberText_toDigits (m : Nat) : isNumberText (Nat.toDigits 10 m) = true ∧
    isNumberText ('-' :: Nat.toDigits 10 m) = true := by
  have hfits : (Nat.toDigits 10 m).length = 1 ∨ (Nat.toDigits 10 m).head? ≠ some '0' := by
    rcases Nat.eq_zero_or_pos m with rfl | hpos
    · exact .inl rfl
    · exact .inr (head?_toDigits_ne hpos)
  have hne : Nat.toDigits 10 m ≠ [] := Nat.toDigits_ne_nil
  have hdigits : ∀ c ∈ Nat.toDigits 10 m, c.isDigit = true := fun c hc => isDigit_of_mem_decimal hc
  generalize Nat.toDigits 10 m = cs at hfits hne hdigits
  have hwhole : cs.takeWhile Char.isDigit = cs := List.takeWhile_eq_self_iff.mpr hdigits
  have hrest : cs.dropWhile Char.isDigit = [] := List.dropWhile_eq_nil_iff.mpr hdigits
  constructor
  · unfold isNumberText
    split
    · next rest => exact absurd (hdigits '-' List.mem_cons_self) (by decide)
    · simpa [hwhole, hrest, hne] using hfits
  · simpa [isNumberText, hwhole, hrest, hne] using hfits

/-- An integer with too many digits is refused, any other is read. -/
theorem ofNumberText?_toString (n : Int) :
    ofNumberText? (toString n).toList = if fits n then some (.int n) else none := by
  have hlong : maxDigits < (Nat.toDigits 10 n.natAbs).length ↔ ¬ fits n = true := by
    rw [fits, decide_eq_true_eq, Nat.not_le]
  have hall : (Nat.toDigits 10 n.natAbs).all Char.isDigit = true :=
    List.all_eq_true.mpr fun c hc => isDigit_of_mem_decimal hc
  obtain ⟨hplain, hminus⟩ := isNumberText_toDigits n.natAbs
  rw [toList_toString]
  split
  · next hsign =>
    have hvalue : -(n.natAbs : Int) = n := by omega
    simp only [List.singleton_append, ofNumberText?, hminus, readSign, hall, digitsValue_toDigits,
      hlong, ite_not]
    rw [hvalue]
    rfl
  · next hsign =>
    have hread := readSign_of_isDigit fun c (hc : c ∈ Nat.toDigits 10 n.natAbs) =>
      isDigit_of_mem_decimal hc
    have hvalue : (n.natAbs : Int) = n := by omega
    simp only [List.nil_append, ofNumberText?, hplain, hread, hall, digitsValue_toDigits, hlong,
      ite_not]
    rw [hvalue]
    rfl

theorem hexDigits_succ (width n : Nat) :
    hexDigits (width + 2) n = hexDigits (width + 1) (n / 16) ++ [Nat.digitChar (n % 16)] := by
  have hpad (k : Nat) : hexDigits (width + 1) k = List.replicate
      (width + 1 - (Nat.toDigits 16 k).length) '0' ++ Nat.toDigits 16 k := rfl
  rw [hexDigits, Nat.toDigits_eq_if (by omega), hpad]
  split
  · next hsmall =>
    rw [Nat.div_eq_of_lt hsmall, Nat.mod_eq_of_lt hsmall]
    simp [List.replicate_succ']
  · simp

theorem hexDigits_four {n : Nat} (h : n < 0x10000) : hexDigits 4 n =
    [Nat.digitChar (n / 16 / 16 / 16), Nat.digitChar (n / 16 / 16 % 16),
      Nat.digitChar (n / 16 % 16), Nat.digitChar (n % 16)] := by
  have hfirst : hexDigits 1 (n / 16 / 16 / 16) = [Nat.digitChar (n / 16 / 16 / 16)] := by
    rw [hexDigits, Nat.toDigits_of_lt_base (by omega)]
    rfl
  rw [hexDigits_succ, hexDigits_succ, hexDigits_succ, hfirst]
  rfl

theorem hexValue?_digitChar : ∀ d < 16, hexValue? (Nat.digitChar d) = some d := by decide

theorem readUnit_hexDigits {n : Nat} (h : n < 0x10000) (rest : List Char) :
    readUnit (hexDigits 4 n ++ rest) = some (n, rest) := by
  have hvalue : ((n / 16 / 16 / 16 * 16 + n / 16 / 16 % 16) * 16 + n / 16 % 16) * 16 + n % 16 = n :=
    by omega
  simp only [hexDigits_four h, List.cons_append, List.nil_append, readUnit]
  rw [hexValue?_digitChar _ (by omega), hexValue?_digitChar _ (by omega),
    hexValue?_digitChar _ (by omega), hexValue?_digitChar _ (by omega)]
  simp only [Option.bind_eq_bind, Option.bind_some, hvalue, pure]

theorem toNat_bounds (c : Char) :
    c.toNat < 0x110000 ∧ ¬ (0xd800 ≤ c.toNat ∧ c.toNat < 0xe000) := by
  have hvalid := c.valid
  simp only [UInt32.isValidChar, Nat.isValidChar] at hvalid
  simp only [Char.toNat]
  omega

theorem readEscape_unit {n : Nat} (h : n < 0x10000) (hsurrogate : ¬ (0xd800 ≤ n ∧ n < 0xe000))
    (rest : List Char) :
    readEscape ('u' :: (hexDigits 4 n ++ rest)) = some (.char (Char.ofNat n), rest) := by
  have hhigh : ¬ (0xd800 ≤ n ∧ n < 0xdc00) := by omega
  have hlow : ¬ (0xdc00 ≤ n ∧ n < 0xe000) := by omega
  simp only [readEscape, readUnit_hexDigits h, Option.bind_eq_bind, Option.bind_some, hhigh, hlow,
    if_false, guard, pure]

theorem readEscape_pair {high low : Nat} {text behind rest : List Char}
    (hhigh : 0xd800 ≤ high ∧ high < 0xdc00) (hlow : 0xdc00 ≤ low ∧ low < 0xe000)
    (hread : readUnit text = some (high, '\\' :: 'u' :: behind))
    (hbehind : readUnit behind = some (low, rest)) : readEscape ('u' :: text) =
      some (.char (Char.ofNat (0x10000 + (high - 0xd800) * 0x400 + (low - 0xdc00))), rest) := by
  have hdrop : dropWord? ['\\', 'u'] ('\\' :: 'u' :: behind) = some behind := rfl
  simp only [readEscape, hread, Option.bind_eq_bind, Option.bind_some]
  rw [if_pos hhigh, hdrop, Option.bind_some, hbehind, Option.bind_some]
  simp only [guard, hlow, and_self, if_true]
  exact Option.bind_some ..

theorem unitEscape_append (unit : Nat) (rest : List Char) :
    unitEscape unit ++ rest = '\\' :: 'u' :: (hexDigits 4 unit ++ rest) := rfl

theorem numericEscape_of_pair {c : Char} (h : ¬ c.toNat < 0x10000) : numericEscape c =
    unitEscape (0xd800 + (c.toNat - 0x10000) / 0x400) ++
      unitEscape (0xdc00 + (c.toNat - 0x10000) % 0x400) := if_neg h

/-- The escape of a character by its number is read as the character. -/
theorem readEscape_numericEscape (c : Char) (rest : List Char) :
    ∃ escape, numericEscape c ++ rest = '\\' :: escape ∧
      readEscape escape = some (.char c, rest) := by
  obtain ⟨hlt, hsurrogate⟩ := toNat_bounds c
  have hchar : Char.ofNat c.toNat = c := Char.ofNat_toNat c
  by_cases hunit : c.toNat < 0x10000
  · have hescape : numericEscape c = unitEscape c.toNat := if_pos hunit
    rw [hescape, unitEscape_append]
    exact ⟨_, rfl, by rw [readEscape_unit hunit hsurrogate, hchar]⟩
  · rw [numericEscape_of_pair hunit]
    generalize hhigh : 0xd800 + (c.toNat - 0x10000) / 0x400 = high
    generalize hlow : 0xdc00 + (c.toNat - 0x10000) % 0x400 = low
    have hnumber : 0x10000 + (high - 0xd800) * 0x400 + (low - 0xdc00) = c.toNat := by omega
    rw [List.append_assoc, unitEscape_append, unitEscape_append]
    exact ⟨_, rfl, by rw [readEscape_pair (by omega) (by omega) (readUnit_hexDigits (by omega) _)
      (readUnit_hexDigits (by omega) _), hnumber, hchar]⟩

/-- The escape of a stray byte by its number is read as the byte. -/
theorem readEscape_stray (excess : Fin 128) (rest : List Char) :
    readEscape ('u' :: (hexDigits 4 (RawUnit.surrogate excess) ++ rest)) =
      some (.byte excess, rest) := by
  have hsurrogate : RawUnit.surrogate excess = 0xdc80 + excess.val := rfl
  have hbound := excess.isLt
  generalize hunit : RawUnit.surrogate excess = unit at hsurrogate
  have hhigh : ¬ (0xd800 ≤ unit ∧ unit < 0xdc00) := by omega
  have hlow : 0xdc00 ≤ unit ∧ unit < 0xe000 := by omega
  have hstray : strayByte? unit = some (.byte excess) := by
    rw [strayByte?, dif_pos (by omega)]
    simp [hsurrogate]
  simp only [readEscape, readUnit_hexDigits (by omega : unit < 0x10000), Option.bind_eq_bind,
    Option.bind_some]
  rw [if_neg hhigh, if_pos hlow, hstray]
  rfl

theorem readEscape_shortEscapes {c letter : Char} (h : shortEscapes.lookup c = some letter)
    (rest : List Char) : readEscape (letter :: rest) = some (.char c, rest) := by
  have hpairs : ∀ pair ∈ shortEscapes,
      ∀ rest, readEscape (pair.2 :: rest) = some (.char pair.1, rest) := by
    simp [shortEscapes, readEscape]
  obtain ⟨front, back, hpair, -⟩ := List.lookup_eq_some_iff.mp h
  exact hpairs (c, letter) (hpair ▸ by simp) rest

/-- An escape inside a string is read as its unit. -/
theorem readString_escape {unit : RawUnit} {escape rest : List Char}
    (h : readEscape escape = some (unit, rest)) (fuel : Nat) :
    readString (fuel + 1) ('\\' :: escape) =
      (readString fuel rest).map fun (units, rest) => (unit :: units, rest) := by
  simp only [readString, h, Option.bind_eq_bind, Option.bind_some]
  cases readString fuel rest <;> rfl

theorem readString_escapeChar (escapes : Char → Bool) (c : Char) (fuel : Nat)
    (rest : List Char) : readString (fuel + 1) (escapeChar escapes c ++ rest) =
      (readString fuel rest).map fun (units, rest) => (.char c :: units, rest) := by
  rw [escapeChar]
  split
  · next letter hletter => exact readString_escape (readEscape_shortEscapes hletter rest) fuel
  · next hnone =>
    have hquote : c ≠ '"' := by
      rintro rfl
      cases hnone
    have hbackslash : c ≠ '\\' := by
      rintro rfl
      cases hnone
    split
    · obtain ⟨escape, hescape, hread⟩ := readEscape_numericEscape c rest
      rw [hescape, readString_escape hread]
    · next hplain =>
      have hspace : 0x20 ≤ c.toNat := by simp at hplain; omega
      simp only [List.cons_append, List.nil_append, readString, hspace, guard, if_true]
      cases readString fuel rest <;> rfl

theorem readString_escapeUnit (escapes : Char → Bool) (unit : RawUnit) (fuel : Nat)
    (rest : List Char) : readString (fuel + 1) (escapeUnit escapes unit ++ rest) =
      (readString fuel rest).map fun (units, rest) => (unit :: units, rest) := by
  cases unit with
  | char c => exact readString_escapeChar escapes c fuel rest
  | byte excess => exact readString_escape (readEscape_stray excess rest) fuel

theorem readString_escaped (escapes : Char → Bool) (units : List RawUnit) (rest : List Char)
    {fuel : Nat} (hfuel : units.length < fuel) :
    readString fuel (units.flatMap (escapeUnit escapes) ++ '"' :: rest) = some (units, rest) := by
  induction units generalizing fuel with
  | nil =>
    cases fuel with
    | zero => cases hfuel
    | succ fuel => rfl
  | cons unit units ih =>
    cases fuel with
    | zero => cases hfuel
    | succ fuel =>
      rw [List.flatMap_cons, List.append_assoc, readString_escapeUnit,
        ih (Nat.lt_of_succ_lt_succ hfuel)]
      rfl

theorem quoted_eq_quotedRaw (escapes : Char → Bool) (s : String) :
    quoted escapes s = quotedRaw escapes (.ofString s) := by
  rw [quoted, quotedRaw, RawText.units_ofString, List.flatMap_map]
  rfl

end QueryGate.Json
