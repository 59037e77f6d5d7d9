import QueryGate.Number.Double
import QueryGate.Text.Character

/-!
# Reading numbers

Two styles of numeric text are read. Settings and arguments are read liberally: digits of any
script, blank characters around the number. Numbers inside messages are ASCII, with white space
around them. In both styles single underscores may stand between digits.
-/

namespace QueryGate.Number

open QueryGate.Text

/-- Why a text is no integer. -/
inductive IntegerFault where
  /-- The text is not of the form of an integer. -/
  | badLiteral
  /-- The text has more digits than are converted. -/
  | tooManyDigits (count : Nat)
  deriving DecidableEq, Repr

/-- The largest number of digits that is converted to an integer, or that an integer is written
with. -/
def maxDigits : Nat := 4300

/-- The integer can be written. -/
def fits (n : Int) : Bool := (Nat.toDigits 10 n.natAbs).length ≤ maxDigits

/-- The reason why an integer that is too large is not written. -/
def oversizedText : String :=
  "Exceeds the limit (4300 digits) for integer string conversion; " ++
    "use sys.set_int_max_str_digits() to increase the limit"

def digitsValue (cs : List Char) : Nat := cs.foldl (fun n c => 10 * n + (c.toNat - 48)) 0

/-- An ASCII space: what is passed over around a number after other scripts are replaced. -/
def isAsciiSpace (c : Char) : Bool := c == ' ' || (9 ≤ c.toNat && c.toNat ≤ 13)

/-- Replace digits of other scripts by ASCII digits, and blank characters beyond ASCII by
spaces. -/
def toAscii (c : Char) : Char :=
  if c.toNat < 128 then c
  else if isBlank c then ' '
  else match digitValue? c with
    | some d => Char.ofNat (48 + d)
    | none => '?'

/-- A sign at the front, and the text after it. -/
def readSign : List Char → Bool × List Char
  | '-' :: rest => (true, rest)
  | '+' :: rest => (false, rest)
  | cs => (false, cs)

/-- Underscores stand singly and between digits only; `afterDigit` says whether a digit comes
before the text. -/
def underscoresFit : Bool → List Char → Bool
  | _, [] => true
  | afterDigit, '_' :: rest =>
      afterDigit && (match rest with | c :: _ => c.isDigit | [] => false) &&
        underscoresFit false rest
  | _, c :: rest => underscoresFit c.isDigit rest

/-- Read an integer in the liberal style. A run with too many digits is refused before the text
after it is looked at. -/
def readInteger (cs : List Char) : Except IntegerFault Int :=
  let (negative, body) := readSign ((cs.map toAscii).dropWhile isAsciiSpace)
  let inRun := fun (c : Char) => c.isDigit || c == '_'
  let run := body.takeWhile inRun
  let digits := run.filter Char.isDigit
  if digits.isEmpty || !underscoresFit false run then .error .badLiteral
  else if maxDigits < digits.length then .error (.tooManyDigits digits.length)
  else if !(body.dropWhile inRun).all isAsciiSpace then .error .badLiteral
  else
    let n : Int := digitsValue digits
    .ok (if negative then -n else n)

/-- Read the exponent part of a number: nothing, or a mark, an optional sign and digits. -/
def readExponent : List Char → Option Int
  | [] => some 0
  | c :: rest =>
      let (negative, digits) := readSign rest
      if (c == 'e' || c == 'E') && !digits.isEmpty && digits.all Char.isDigit then
        let n : Int := digitsValue digits
        some (if negative then -n else n)
      else none

/-- Read an unsigned decimal number, with or without point and exponent. -/
def readDecimal (negative : Bool) (cs : List Char) : Option Double :=
  let whole := cs.takeWhile Char.isDigit
  let rest := cs.dropWhile Char.isDigit
  let (fraction, tail) := match rest with
    | '.' :: after => (after.takeWhile Char.isDigit, after.dropWhile Char.isDigit)
    | rest => ([], rest)
  if whole.isEmpty && fraction.isEmpty then none
  else (readExponent tail).map fun exponent =>
    Double.ofDecimal negative (digitsValue (whole ++ fraction)) (exponent - fraction.length)

/-- Read a number: an optional sign, and then a decimal number or one of the words for infinity
and for a NaN, in any case. -/
def readNumber (cs : List Char) : Option Double :=
  let (negative, body) := readSign cs
  let word := String.ofList (body.map Char.toLower)
  if word == "inf" || word == "infinity" then some (.infinity negative)
  else if word == "nan" then some .nan
  else readDecimal negative body

def readLiberal (cs : List Char) : Option Double :=
  let text := trimBy isAsciiSpace (cs.map toAscii)
  if underscoresFit false text then readNumber (text.filter (· != '_')) else none

/-- Two underscores stand next to each other. -/
def hasDoubleUnderscore : List Char → Bool
  | '_' :: '_' :: _ => true
  | _ :: rest => hasDoubleUnderscore rest
  | [] => false

/-- A number inside a message without its underscores, which stand neither at an end nor next to
each other. -/
def withoutUnderscores (cs : List Char) : Option (List Char) :=
  if cs.head? == some '_' || cs.getLast? == some '_' || hasDoubleUnderscore cs then none
  else some (cs.filter (· != '_'))

/-- Read a number inside a message. White space may stand around a number without underscores
only. -/
def readStrict (cs : List Char) : Option Double :=
  match readNumber (trimBy isWhiteSpace cs) with
  | some x => some x
  | none => if cs.contains '_' then (withoutUnderscores cs).bind readNumber else none

/-- Read an integer in its plain form: a minus sign perhaps, and digits without a zero in front.
A number that does not start with a zero is refused for its length before the text after its
digits is looked at. -/
def readPlainInteger (cs : List Char) : Except IntegerFault Int :=
  let (negative, body) := match cs with
    | '-' :: rest => (true, rest)
    | cs => (false, cs)
  let digits := body.takeWhile Char.isDigit
  let rest := body.dropWhile Char.isDigit
  if digits.head? == some '0' then
    if digits.length = 1 && rest.isEmpty then .ok 0 else .error .badLiteral
  else if maxDigits < cs.length - rest.length then .error (.tooManyDigits digits.length)
  else if digits.isEmpty || !rest.isEmpty then .error .badLiteral
  else
    let n : Int := digitsValue digits
    .ok (if negative then -n else n)

/-- A number without the zeros in front, and without the underscores among these. A minus sign may
follow the zeros. Of a text of nothing else the last character is left. -/
def withoutLeadingZeros (cs : List Char) : Option (List Char) :=
  let starts (c : Char) : Bool := c == '-' || (c.isDigit && c != '0')
  match cs with
  | '0' :: _ =>
      let zeros := cs.takeWhile fun c => c == '0' || c == '_'
      match cs.dropWhile fun c => c == '0' || c == '_' with
      | [] => some (zeros.drop (zeros.length - 1))
      | c :: rest =>
          if c == '.' then some (zeros.drop (zeros.length - 1) ++ c :: rest)
          else if starts c then some (c :: rest)
          else none
  | c :: rest => if starts c then some (c :: rest) else none
  | [] => none

def withoutZeroFraction (cs : List Char) : Option (List Char) :=
  match cs.dropWhile (· != '.') with
  | [] => some cs
  | _ :: fraction =>
      if !fraction.isEmpty && fraction.all (· == '0') then some (cs.takeWhile (· != '.')) else none

/-- Bring an integer into its plain form: without white space around it, a plus sign, zeros in
front, a fraction of zeros, and underscores. -/
def tidyInteger (cs : List Char) : Option (List Char) := do
  let text := trimBy isWhiteSpace cs
  let unsigned ← match text with
    | '+' :: '-' :: _ => none
    | '+' :: rest => some rest
    | text => some text
  withoutUnderscores (← withoutZeroFraction (← withoutLeadingZeros unsigned))

/-- Read an integer inside a message: in its plain form, or in a form that can be brought into it.
Only a text that is plain from the start is refused for its length. -/
def readStrictInteger (cs : List Char) : Except IntegerFault Int :=
  match readPlainInteger cs with
  | .error .badLiteral => match (tidyInteger cs).map readPlainInteger with
    | some (.ok n) => .ok n
    | _ => .error .badLiteral
  | result => result

end QueryGate.Number
