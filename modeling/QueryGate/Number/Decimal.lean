import QueryGate.Number.Double
import QueryGate.Number.Reading

/-!
# Decimal numbers

Decimal numbers keep their exponent, so that `9.50` is written with its zero. They are written
without an exponent as long as the exponent is not positive and the point is not too far to the
left of the digits.
-/

namespace QueryGate.Number

open QueryGate.Text

/-- A decimal number: `± coefficient * 10 ^ exponent`, an infinity, or a NaN with the digits that
follow its name. -/
inductive Decimal where
  | finite (negative : Bool) (coefficient : Nat) (exponent : Int)
  | infinity (negative : Bool)
  | nan (negative signaling : Bool) (payload : String)
  deriving DecidableEq, Repr

namespace Decimal

def text : Decimal → String
  | .infinity negative => (if negative then "-" else "") ++ "Infinity"
  | .nan negative signaling payload =>
      (if negative then "-" else "") ++ (if signaling then "sNaN" else "NaN") ++ payload
  | .finite negative coefficient exponent =>
      let digits := (Nat.repr coefficient).toList
      let left : Int := exponent + digits.length
      let point : Int := if exponent ≤ 0 && -6 < left then left else 1
      let body :=
        if point ≤ 0 then "0." ++ zeros point.natAbs ++ String.ofList digits
        else if (digits.length : Int) ≤ point then
          String.ofList digits ++ zeros (point.natAbs - digits.length)
        else String.ofList (digits.take point.natAbs) ++ "." ++
          String.ofList (digits.drop point.natAbs)
      let mark :=
        if left = point then ""
        else "E" ++ (if left < point then "-" else "+") ++ Nat.repr (left - point).natAbs
      (if negative then "-" else "") ++ body ++ mark

/-- The absolute value of a finite decimal number as a quotient. -/
def ratio (coefficient : Nat) (exponent : Int) : Nat × Nat :=
  if exponent < 0 then (coefficient, tenTo exponent.natAbs)
  else (coefficient * tenTo exponent.natAbs, 1)

/-- The integer part, toward zero, of a finite decimal number. -/
def truncate? : Decimal → Option Int
  | .finite negative coefficient exponent =>
      let (num, den) := ratio coefficient exponent
      let whole : Int := (num / den : Nat)
      some (if negative then -whole else whole)
  | _ => none

/-- The finite decimal number is an integer. -/
def isIntegral : Decimal → Bool
  | .finite _ coefficient exponent =>
      let (num, den) := ratio coefficient exponent
      num % den == 0
  | _ => false

/-- The nearest double; a signaling NaN has none. -/
def toDouble? : Decimal → Option Double
  | .finite negative coefficient exponent => some (Double.ofDecimal negative coefficient exponent)
  | .infinity negative => some (.infinity negative)
  | .nan _ signaling _ => if signaling then none else some .nan

end Decimal

end QueryGate.Number
