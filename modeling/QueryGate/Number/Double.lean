/-!
# Double-precision numbers

A finite double is a sign, a mantissa and an exponent, and stands for the exact rational
`± mantissa * 2 ^ exponent / 2 ^ 1074`. Every operation computes the exact rational result and
rounds it once, to the nearest double, ties to the even mantissa. All arithmetic is on natural
numbers and integers, scaled by powers of two and of ten.

A finite double is written with the fewest decimal digits that lie in the interval of numbers
which round to it; of several such decimals the one nearest to it is taken, and of two equally
near ones the one whose last digit is even. For each number of digits the two neighbours of the
double on that decimal grid are tested in exact arithmetic. If any point of a grid lies in the
interval, so does one of the neighbours. A `Layout` says how the digits are laid out.
-/

namespace QueryGate.Number

def twoTo (n : Nat) : Nat := Nat.pow 2 n

def tenTo (n : Nat) : Nat := Nat.pow 10 n

theorem twoTo_succ (n : Nat) : twoTo (n + 1) = twoTo n * 2 := rfl

theorem tenTo_succ (n : Nat) : tenTo (n + 1) = tenTo n * 10 := rfl

theorem twoTo_pos (n : Nat) : 0 < twoTo n := by
  induction n with
  | zero => decide
  | succ n ih => rw [twoTo_succ]; omega

theorem tenTo_pos (n : Nat) : 0 < tenTo n := by
  induction n with
  | zero => decide
  | succ n ih => rw [tenTo_succ]; omega

/-- A double-precision number. In a finite number that an operation yields, the mantissa is below
`2 ^ 53`, and at least `2 ^ 52` unless the exponent is zero. -/
inductive Double where
  | nan
  | infinity (negative : Bool)
  | finite (negative : Bool) (mantissa exponent : Nat)
  deriving DecidableEq, Repr

/-- The number of units in one: a unit is the least positive double. -/
def unitsPerOne : Nat := twoTo 1074

/-- The quotient rounded to the nearest natural number, ties to even. -/
def roundDiv (num den : Nat) : Nat :=
  let quotient := num / den
  let twice := 2 * (num % den)
  if twice < den then quotient
  else if den < twice then quotient + 1
  else if quotient % 2 = 0 then quotient else quotient + 1

/-- The largest exponent of a finite number. -/
def maxExponent : Nat := 2045

/-- A rounded mantissa put into range: rounding may have carried it to `2 ^ 53`, and the number
may lie beyond the finite ones. -/
def Double.normalize (negative : Bool) (mantissa exponent : Nat) : Double :=
  let carried := mantissa = twoTo 53
  let m := if carried then twoTo 52 else mantissa
  let e := if carried then exponent + 1 else exponent
  if maxExponent < e then .infinity negative else .finite negative m e

namespace Double

/-- The double nearest to a quotient, ties to even. -/
def ofRatio (negative : Bool) (num den : Nat) : Double :=
  let units := num * unitsPerOne
  let exponent := Nat.log2 (units / den) - 52
  normalize negative (roundDiv units (den * twoTo exponent)) exponent

def ofInt (n : Int) : Double := ofRatio (n < 0) n.natAbs 1

/-- The double nearest to `± coefficient * 10 ^ exponent`. Far outside the range of doubles the
power is not computed. -/
def ofDecimal (negative : Bool) (coefficient : Nat) (exponent : Int) : Double :=
  let magnitude := (Nat.repr coefficient).length + exponent
  if coefficient = 0 || magnitude < -400 then .finite negative 0 0
  else if 400 < magnitude then .infinity negative
  else if exponent < 0 then ofRatio negative coefficient (tenTo exponent.natAbs)
  else ofRatio negative (coefficient * tenTo exponent.natAbs) 1

def zero : Double := .finite false 0 0

/-- The number is neither a NaN nor infinite. -/
def isFinite : Double → Bool
  | .finite .. => true
  | _ => false

/-- The size of a finite number in units. -/
def units : Double → Nat
  | .finite _ mantissa exponent => mantissa * twoTo exponent
  | _ => 0

def signedUnits : Double → Int
  | .finite true mantissa exponent => -((mantissa * twoTo exponent : Nat) : Int)
  | .finite false mantissa exponent => (mantissa * twoTo exponent : Nat)
  | _ => 0

/-- The number is below zero. Neither zero nor a NaN is. -/
def isNegative : Double → Bool
  | .nan => false
  | .infinity negative => negative
  | .finite negative mantissa _ => negative && mantissa != 0

/-- The finite number is an integer. -/
def isIntegral (x : Double) : Bool := x.units % unitsPerOne == 0

/-- The integer part of a finite number, toward zero. -/
def truncate : Double → Int
  | .finite negative mantissa exponent =>
      let whole : Int := ((mantissa * twoTo exponent) / unitsPerOne : Nat)
      if negative then -whole else whole
  | _ => 0

/-- The difference. The difference of equal numbers is zero, which is negative only for
`-0.0 - 0.0`. -/
def sub : Double → Double → Double
  | .nan, _ => .nan
  | _, .nan => .nan
  | .infinity a, .infinity b => if a == b then .nan else .infinity a
  | .infinity a, .finite .. => .infinity a
  | .finite .., .infinity b => .infinity (!b)
  | .finite a m e, .finite b m' e' =>
      let difference := signedUnits (.finite a m e) - signedUnits (.finite b m' e')
      if difference = 0 then .finite (a && !b) 0 0
      else ofRatio (difference < 0) difference.natAbs unitsPerOne

/-- The product with a positive natural number. -/
def scale (factor : Nat) : Double → Double
  | .nan => .nan
  | .infinity negative => .infinity negative
  | .finite negative mantissa exponent =>
      ofRatio negative (mantissa * twoTo exponent * factor) unitsPerOne

/-- The size of a finite number as a multiple of `10 ^ -places`, rounded, ties to even. -/
def inPlaces (places : Nat) (x : Double) : Nat := roundDiv (x.units * tenTo places) unitsPerOne

/-- The double nearest to the number rounded to so many decimal places. -/
def roundTo (places : Nat) : Double → Double
  | .finite negative mantissa exponent =>
      ofRatio negative (inPlaces places (.finite negative mantissa exponent)) (tenTo places)
  | x => x

end Double

/-- A decimal `coefficient * 10 ^ exponent`. -/
structure Scientific where
  coefficient : Nat
  exponent : Int
  deriving DecidableEq, Repr

/-- How many decimal digits a natural number has; zero has one. -/
def digitCount (n : Nat) : Nat := (Nat.repr n).length

/-- The exponent of the leading decimal digit of a positive quotient. -/
def leadingExponent (num den : Nat) : Int :=
  let guess : Int := (digitCount num : Int) - digitCount den
  let reaches := if guess < 0 then den ≤ num * tenTo guess.natAbs
    else den * tenTo guess.natAbs ≤ num
  if reaches then guess else guess - 1

/-- The interval of numbers that round to a positive double: its ends in quarter units, and
whether the ends belong to it. The distance to the next smaller double is halved at a power of
two. -/
def roundingInterval (mantissa exponent : Nat) : Nat × Nat × Bool :=
  let ulp := twoTo exponent
  let below := if mantissa = twoTo 52 && exponent != 0 then ulp else 2 * ulp
  (4 * mantissa * ulp - below, 4 * mantissa * ulp + 2 * ulp, mantissa % 2 == 0)

/-- The decimal with the given exponent that lies in the rounding interval and is nearest to the
double, if there is one. -/
def onGrid (mantissa exponent : Nat) (grid : Int) : Option Scientific :=
  let (low, high, closed) := roundingInterval mantissa exponent
  -- The double is `value / step` grid points, and a quarter unit is `quarter / (4 * step)`.
  let quarter := if grid < 0 then tenTo grid.natAbs else 1
  let step := unitsPerOne * (if grid < 0 then 1 else tenTo grid.natAbs)
  let value := mantissa * twoTo exponent * quarter
  let inside (candidate : Nat) : Bool :=
    let point := 4 * candidate * step
    if closed then low * quarter ≤ point && point ≤ high * quarter
    else low * quarter < point && point < high * quarter
  let lower := value / step
  let nearest := roundDiv value step
  let other := if nearest = lower then lower + 1 else lower
  if nearest != 0 && inside nearest then some ⟨nearest, grid⟩
  else if other != 0 && inside other then some ⟨other, grid⟩
  else none

/-- Remove zeros from the end of the coefficient; `fuel` bounds their number. -/
def Scientific.stripZeros : Nat → Scientific → Scientific
  | 0, d => d
  | fuel + 1, d =>
      if d.coefficient != 0 && d.coefficient % 10 == 0 then
        stripZeros fuel ⟨d.coefficient / 10, d.exponent + 1⟩
      else d

/-- The shortest decimal that reads back as the positive double. Seventeen digits always
suffice. -/
def shortest (mantissa exponent : Nat) : Scientific :=
  let leading := leadingExponent (mantissa * twoTo exponent) unitsPerOne
  let found := (List.range 17).findSome? fun (n : Nat) => onGrid mantissa exponent (leading - n)
  (found.getD ⟨0, 0⟩).stripZeros 20

/-- How a double is written: which exponents of the leading digit are written positionally, how
many digits an exponent has at least, and the texts of the numbers that are not finite. -/
structure Layout where
  positionalFrom : Int
  positionalBelow : Int
  exponentDigits : Nat
  nan : String
  infinity : String

def zeros (n : Nat) : String := String.ofList (List.replicate n '0')

/-- A number in decimal digits, with zeros in front up to the given width. -/
def padded (width n : Nat) : String :=
  let digits := Nat.repr n
  zeros (width - digits.length) ++ digits

/-- A positive decimal in positional notation, with at least one digit on either side of the
point. -/
def positional (digits : String) (leading : Int) : String :=
  if leading < 0 then "0." ++ zeros (leading.natAbs - 1) ++ digits
  else
    let whole := leading.natAbs + 1
    if digits.length ≤ whole then digits ++ zeros (whole - digits.length) ++ ".0"
    else String.ofList (digits.toList.take whole) ++ "." ++ String.ofList (digits.toList.drop whole)

/-- A positive decimal with an exponent that carries a sign. -/
def withExponent (digits : String) (leading : Int) (exponentDigits : Nat) : String :=
  let fraction := digits.toList.drop 1
  let point := if fraction.isEmpty then "" else "."
  String.ofList (digits.toList.take 1) ++ point ++ String.ofList fraction ++ "e" ++
    (if leading < 0 then "-" else "+") ++ padded exponentDigits leading.natAbs

/-- Write a double. Zero keeps its sign. -/
def Layout.write (layout : Layout) : Double → String
  | .nan => layout.nan
  | .infinity negative => (if negative then "-" else "") ++ layout.infinity
  | .finite negative mantissa exponent =>
      let sign := if negative then "-" else ""
      if mantissa = 0 then sign ++ "0.0"
      else
        let decimal := shortest mantissa exponent
        let digits := Nat.repr decimal.coefficient
        let leading := decimal.exponent + digits.length - 1
        sign ++ (if layout.positionalFrom ≤ leading && leading < layout.positionalBelow then
          positional digits leading
        else withExponent digits leading layout.exponentDigits)

/-- A double rounded to an integer and written without a point. -/
def wholeText : Double → String
  | .nan => "nan"
  | .infinity negative => if negative then "-inf" else "inf"
  | .finite negative mantissa exponent =>
      (if negative then "-" else "") ++
        Nat.repr (Double.inPlaces 0 (.finite negative mantissa exponent))

end QueryGate.Number
