import QueryGate.Fault
import QueryGate.Number.Reading
import QueryGate.Value.Basic

/-!
# Values where other kinds are needed

Any value may be given where entries or an integer are needed. Objects are entries themselves;
other values are taken apart into parts, each of which must be a pair of a key and a value. The
parts of a text are its characters, those of a byte string are numbers. Numbers are cut toward
zero, texts are read liberally, and byte strings are read like texts of ASCII characters.
Everything else fails, and the fault says what the value lacks.
-/

namespace QueryGate

open QueryGate.Number QueryGate.Text

namespace Value

/-- Something is given: the value is neither absent, false, zero nor empty. -/
def isGiven : Value → Bool
  | .null => false
  | .bool b => b
  | .int n => n != 0
  | .float (.finite _ mantissa _) => mantissa != 0
  | .decimal (.finite _ coefficient _) => coefficient != 0
  | .duration d => d.microseconds != 0
  | .text s => !s.isEmpty
  | .bytes data => !data.isEmpty
  | .list items => !items.isEmpty
  | .object entries => !entries.isEmpty
  | _ => true

/-- The parts of a value, in order; those of an object are its keys. -/
def parts? : Value → Option (List Value)
  | .text s => some (s.toList.map fun c => .text (String.ofList [c]))
  | .bytes data => some (data.map fun b => .int b.toNat)
  | .list items => some items
  | .object entries => some (entries.map fun (key, _) => .text key)
  | _ => none

def noParts (value : Value) : Fault :=
  .plain .type ("'" ++ value.qualifiedKindName ++ "' object is not iterable")

def noAttribute (value : Value) (name : String) : Fault :=
  .plain .attribute
    ("'" ++ value.qualifiedKindName ++ "' object has no attribute " ++ Text.literal name)

/-- The fault of a value that is no key, because its contents may change. -/
def noKey (value : Value) : Fault :=
  .plain .type ("unhashable type: '" ++ value.qualifiedKindName ++ "'")

def keyText : Value → Except Fault String
  | .text s => .ok s
  | .null => .ok "null"
  | .bool b => .ok (if b then "true" else "false")
  | .list items => .error (Value.list items).noKey
  | .object entries => .error (Value.object entries).noKey
  | value => .ok value.display

end Value

namespace Entries

def entryOf (index : Nat) (part : Value) : Except Fault (String × Value) :=
  match part.parts? with
  | none => .error (.plain .type
      ("cannot convert dictionary update sequence element #" ++ toString index ++
        " to a sequence"))
  | some [key, value] => do return (← key.keyText, value)
  | some parts => .error (.plain .value
      ("dictionary update sequence element #" ++ toString index ++ " has length " ++
        toString parts.length ++ "; 2 is required"))

/-- The entries that parts stand for, from an index on. -/
def ofParts (index : Nat) : List Value → Except Fault Entries
  | [] => .ok []
  | part :: rest => do
      let entry ← entryOf index part
      return entry :: (← ofParts (index + 1) rest)

/-- The entries that a value stands for. Of several entries with one key the last one counts. -/
def ofValue : Value → Except Fault Entries
  | .object entries => .ok entries
  | value => match value.parts? with
    | none => .error value.noParts
    | some parts => do return overlay [] (← ofParts 0 parts)

end Entries

/-- The fault of a literal that is not of the form of an integer. -/
def invalidLiteral (literal : String) : Fault :=
  .plain .value ("invalid literal for int() with base 10: " ++ firstChars 200 literal)

/-- An integer from the characters of a value; the literal of the value is shown where it has
the wrong form. -/
def integerFromText (cs : List Char) (literal : String) : Except Fault Int :=
  match readInteger cs with
  | .ok n => .ok n
  | .error .badLiteral => .error (invalidLiteral literal)
  | .error (.tooManyDigits count) => .error (.plain .value
      ("Exceeds the limit (4300 digits) for integer string conversion: value has " ++
        toString count ++ " digits; use sys.set_int_max_str_digits() to increase the limit"))

/-- A byte as a character; what is not ASCII is no part of a number. -/
def asciiOfByte (b : UInt8) : Char := if b < 128 then Char.ofNat b.toNat else '?'

def Value.toInteger (value : Value) : Except Fault Int :=
  match value with
  | .int n => .ok n
  | .bool b => .ok (if b then 1 else 0)
  | .float .nan => .error (.plain .value "cannot convert float NaN to integer")
  | .float (.infinity _) => .error (.plain .overflow "cannot convert float infinity to integer")
  | .float x => .ok x.truncate
  | .decimal (.nan ..) => .error (.plain .value "cannot convert NaN to integer")
  | .decimal (.infinity _) => .error (.plain .overflow "cannot convert Infinity to integer")
  | .decimal d => .ok (d.truncate?.getD 0)
  | .text s => integerFromText s.toList value.literal
  | .bytes data => integerFromText (data.map asciiOfByte) value.literal
  | _ => .error (.plain .type
      ("int() argument must be a string, a bytes-like object or a real number, not '" ++
        value.qualifiedKindName ++ "'"))

/-- The decimal text of an integer, unless it has too many digits. -/
def integerText (n : Int) : Except Fault String :=
  if fits n then .ok (toString n) else .error .oversized

/-- The query that reads sample rows of a table, with any value as the limit. The names are
judged before the limit. -/
def sampleRowsQueryOf (schema table : String) (limit : Value) : Except Fault String := do
  let name ← (Sql.qualifiedName schema table).mapError .ofUnsafeIdentifier
  let n ← limit.toInteger
  return Sql.rowsQuery name (← integerText n)

end QueryGate
