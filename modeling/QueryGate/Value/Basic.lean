import QueryGate.Calendar
import QueryGate.Number.Decimal
import QueryGate.Text.Literal

/-!
# Values

The values that database rows, log contexts, settings and message fields hold. Objects keep the
order of their entries.

A value has two texts. Its literal shows its kind and its contents on one line; its display text
is the plain text of the value. The texts are those that log lines and diagnostics of invalid
data carry.
-/

namespace QueryGate

open QueryGate.Number QueryGate.Calendar QueryGate.Text

inductive Value where
  | null
  | bool (b : Bool)
  | int (n : Int)
  | float (x : Double)
  | text (s : String)
  | bytes (data : List UInt8)
  | decimal (d : Decimal)
  | date (d : Date)
  | time (t : ClockTime)
  | datetime (t : DateTime)
  | duration (d : Duration)
  /-- A numeric range: its bounds, where `null` is no bound, and the two brackets. -/
  | range (lower upper : Value) (brackets : String)
  | list (items : List Value)
  | object (entries : List (String × Value))
  deriving Repr, Inhabited

abbrev Entries := List (String × Value)

def Entries.find? (entries : Entries) (key : String) : Option Value := entries.lookup key

/-- Put a value under a key: in the place of the old value, or at the end. -/
def Entries.put : Entries → String → Value → Entries
  | [], key, value => [(key, value)]
  | (k, v) :: rest, key, value =>
      if k = key then (k, value) :: rest else (k, v) :: Entries.put rest key value

/-- Put all entries of the second list into the first, in order. -/
def Entries.overlay (base later : Entries) : Entries :=
  later.foldl (fun entries (key, value) => entries.put key value) base

def Entries.keys (entries : Entries) : List String := entries.map Prod.fst

/-- Floats in log lines and diagnostics. -/
def logFloat : Layout where
  positionalFrom := -4
  positionalBelow := 16
  exponentDigits := 2
  nan := "nan"
  infinity := "inf"

/-- Arguments between parentheses after a name. -/
def constructed (name : String) (arguments : List String) : String :=
  name ++ "(" ++ joinWith ", " arguments ++ ")"

/-- The numbers of a list without up to `fuel` zeros at the end. -/
def dropFinalZeros (fuel : Nat) (numbers : List Nat) : List Nat :=
  match fuel, numbers.getLast? with
  | fuel + 1, some 0 => dropFinalZeros fuel numbers.dropLast
  | _, _ => numbers

/-- The literal of a span of time: its parts that are not zero. -/
def durationLiteral (d : Duration) : String :=
  let part (name : String) (n : Int) := if n = 0 then [] else [name ++ "=" ++ toString n]
  let parts := part "days" d.days ++ part "seconds" d.secondsOfDay ++
    part "microseconds" d.microsOfSecond
  constructed "datetime.timedelta" (if parts.isEmpty then ["0"] else parts)

def offsetArgument : Option Int → List String
  | none => []
  | some 0 => ["tzinfo=datetime.timezone.utc"]
  | some seconds =>
      ["tzinfo=" ++
        constructed "datetime.timezone" [durationLiteral (Duration.ofParts 0 seconds 0)]]

def dateLiteral (d : Date) : String :=
  constructed "datetime.date" ([d.year, d.month, d.day].map toString)

/-- The numbers of a time of day; seconds and their fraction are left out where they are zero. -/
def timeNumbers (t : ClockTime) : List Nat :=
  [t.hour, t.minute] ++ dropFinalZeros 2 [t.second, t.microsecond]

def timeLiteral (t : ClockTime) : String :=
  constructed "datetime.time" ((timeNumbers t).map toString ++ offsetArgument t.offset)

def datetimeLiteral (t : DateTime) : String :=
  constructed "datetime.datetime"
    (([t.date.year, t.date.month, t.date.day] ++ timeNumbers t.time).map toString ++
      offsetArgument t.time.offset)

mutual

def Value.literal : Value → String
  | .null => "None"
  | .bool b => if b then "True" else "False"
  | .int n => toString n
  | .float x => logFloat.write x
  | .text s => Text.literal s
  | .bytes data => bytesLiteral data
  | .decimal d => constructed "Decimal" ["'" ++ d.text ++ "'"]
  | .date d => dateLiteral d
  | .time t => timeLiteral t
  | .datetime t => datetimeLiteral t
  | .duration d => durationLiteral d
  | .range lower upper brackets =>
      constructed "NumericRange" [lower.literal, upper.literal, Text.literal brackets]
  | .list items => "[" ++ joinWith ", " (literals items) ++ "]"
  | .object entries => "\x7b" ++ joinWith ", " (entryLiterals entries) ++ "\x7d"

def literals : List Value → List String
  | [] => []
  | value :: rest => value.literal :: literals rest

def entryLiterals : List (String × Value) → List String
  | [] => []
  | (key, value) :: rest => (Text.literal key ++ ": " ++ value.literal) :: entryLiterals rest

end

def Value.display : Value → String
  | .text s => s
  | .decimal d => d.text
  | .date d => d.iso
  | .time t => t.iso
  | .datetime t => t.iso " "
  | .duration d => d.words
  | .range lower upper brackets =>
      String.ofList (brackets.toList.take 1) ++ lower.display ++ ", " ++ upper.display ++
        String.ofList (brackets.toList.drop 1)
  | value => value.literal

mutual

/-- All integers in the value can be written. -/
def Value.fits : Value → Bool
  | .int n => Number.fits n
  | .range lower upper _ => lower.fits && upper.fits
  | .list items => allFit items
  | .object entries => entriesFit entries
  | _ => true

def allFit : List Value → Bool
  | [] => true
  | value :: rest => value.fits && allFit rest

def entriesFit : List (String × Value) → Bool
  | [] => true
  | (_, value) :: rest => value.fits && entriesFit rest

end

def Value.kindName : Value → String
  | .null => "NoneType"
  | .bool _ => "bool"
  | .int _ => "int"
  | .float _ => "float"
  | .text _ => "str"
  | .bytes _ => "bytes"
  | .decimal _ => "Decimal"
  | .date _ => "date"
  | .time _ => "time"
  | .datetime _ => "datetime"
  | .duration _ => "timedelta"
  | .range .. => "NumericRange"
  | .list _ => "list"
  | .object _ => "dict"

/-- The name of a value's kind together with the family that it belongs to. -/
def Value.qualifiedKindName (value : Value) : String :=
  match value with
  | .decimal _ => "decimal." ++ value.kindName
  | .date _ | .time _ | .datetime _ | .duration _ => "datetime." ++ value.kindName
  | _ => value.kindName

end QueryGate
