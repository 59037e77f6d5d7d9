import QueryGate.Calendar
import QueryGate.Json.Document
import QueryGate.Text.Encoding
import QueryGate.Value.Basic

/-!
# Values in payloads

A payload is an indented JSON text. Values that JSON does not know are written as texts: decimal
numbers by their digits, dates, times and spans of time in ISO form, byte strings by the text
they encode. A float that is not finite is null.

A byte string that is no UTF-8 cannot be written, nor can a text with stray bytes, values that are
nested too deep, or a range whose text shows too large an integer. Of several failures the first in
the order of the text counts.
-/

namespace QueryGate.Payload

open QueryGate.Number QueryGate.Calendar QueryGate.Text

/-- Why a value cannot be written in a payload. -/
inductive Unwritable where
  /-- A byte string encodes no text. -/
  | undecodable (fault : Utf8Fault)
  /-- A text has stray bytes. -/
  | unencodable (fault : EncodingFault)
  /-- An integer is too large to be shown. -/
  | oversized
  /-- Values are nested too deep. -/
  | tooDeep
  deriving DecidableEq, Repr

def Unwritable.message (failure : Unwritable) : String :=
  "Error serializing to JSON: " ++
    match failure with
    | .undecodable fault => fault.message
    | .unencodable fault => "UnicodeEncodeError: " ++ fault.message
    | .oversized => "ValueError: " ++ oversizedText
    | .tooDeep => "ValueError: Maximum serialization depth exceeded"

/-- How deep values may be nested in a field of a row, the value of the field included. -/
def maxDepth : Nat := 255

def floatContent (x : Double) : Json := if x.isFinite then .float x else .null

mutual

/-- The document for a value, which may have so many levels of values. The text of a range is a
value below the range. -/
def contentWithin : Nat → Value → Except Unwritable Json
  | 0, _ => .error .tooDeep
  | room + 1, value => match value with
    | .null => .ok .null
    | .bool b => .ok (.bool b)
    | .int n => .ok (.int n)
    | .float x => .ok (floatContent x)
    | .text s => .ok (.text s)
    | .bytes data => match decodeUtf8 data with
      | .ok s => .ok (.text s)
      | .error fault => .error (.undecodable fault)
    | .decimal d => .ok (.text d.text)
    | .date d => .ok (.text d.iso)
    | .time t => .ok (.text t.payloadText)
    | .datetime t => .ok (.text t.payloadText)
    | .duration d => .ok (.text d.payloadText)
    | .range lower upper brackets =>
        if room = 0 then .error .tooDeep
        else if !(Value.range lower upper brackets).fits then .error .oversized
        else .ok (.text (Value.range lower upper brackets).display)
    | .list items => do return .list (← contentItems room items)
    | .object entries => do return .object (← contentEntries room entries)

def contentItems (room : Nat) : List Value → Except Unwritable (List Json)
  | [] => .ok []
  | value :: rest => do
      let document ← contentWithin room value
      return document :: (← contentItems room rest)

def contentEntries (room : Nat) : List (String × Value) → Except Unwritable (List (String × Json))
  | [] => .ok []
  | (key, value) :: rest => do
      let document ← contentWithin room value
      return (key, document) :: (← contentEntries room rest)

end

def rowContent (row : Entries) : Except Unwritable Json := do
  return .object (← contentEntries maxDepth row)

/-- The line feed and the indentation, two blanks for each level. -/
def lineStart (depth : Nat) : List Char := '\n' :: List.replicate (2 * depth) ' '

/-- Payloads are indented and escape only what JSON demands. Floats are positional between
`0.00001` and below `10^16`. -/
def style : Json.Style where
  escapes := fun _ => false
  float :=
    { positionalFrom := -5
      positionalBelow := 16
      exponentDigits := 1
      nan := "null"
      infinity := "null" }
  opening := fun depth => lineStart (depth + 1)
  between := fun depth => ',' :: lineStart (depth + 1)
  closing := fun depth => lineStart depth

end QueryGate.Payload
