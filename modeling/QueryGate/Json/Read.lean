import QueryGate.Json.Document
import QueryGate.Number.Reading

/-!
# Reading JSON

A reader of documents. A number with a point or an exponent is a float, any other an integer; an
integer with too many digits is refused. If a key occurs twice in an object the last value counts,
in the place of the first. The escape of a stray byte is read as that byte, except in a key.

Every reader takes the text and gives what it read together with the rest of the text. The
readers of nested documents carry a bound on the number of steps; twice the length of the text
always suffices, because of two steps one at least reads a character.
-/

namespace QueryGate.Json

open QueryGate.Number QueryGate.Text

/-- White space between the parts of a document. -/
def isJsonSpace (c : Char) : Bool := c == ' ' || c == '\t' || c == '\n' || c == '\r'

/-- Pass over white space. -/
def skipSpace (cs : List Char) : List Char := cs.dropWhile isJsonSpace

/-- Pass over a given text at the front. -/
def dropWord? (word cs : List Char) : Option (List Char) :=
  if word.isPrefixOf cs then some (cs.drop word.length) else none

def hexValue? (c : Char) : Option Nat :=
  if c.isDigit then some (c.toNat - 48)
  else if 'a' ≤ c ∧ c ≤ 'f' then some (c.toNat - 87)
  else if 'A' ≤ c ∧ c ≤ 'F' then some (c.toNat - 55)
  else none

/-- Read the four digits of a UTF-16 unit. -/
def readUnit : List Char → Option (Nat × List Char)
  | a :: b :: c :: d :: rest => do
      let a ← hexValue? a
      let b ← hexValue? b
      let c ← hexValue? c
      let d ← hexValue? d
      return (((a * 16 + b) * 16 + c) * 16 + d, rest)
  | _ => none

/-- The stray byte that a number stands for. -/
def strayByte? (unit : Nat) : Option RawUnit :=
  if h : 0xdc80 ≤ unit ∧ unit < 0xdd00 then some (.byte ⟨unit - 0xdc80, by omega⟩) else none

/-- Read what follows the backslash of an escape. A surrogate is read as part of a pair or as a
stray byte. -/
def readEscape : List Char → Option (RawUnit × List Char)
  | '"' :: rest => some (.char '"', rest)
  | '\\' :: rest => some (.char '\\', rest)
  | '/' :: rest => some (.char '/', rest)
  | 'b' :: rest => some (.char '\x08', rest)
  | 't' :: rest => some (.char '\t', rest)
  | 'n' :: rest => some (.char '\n', rest)
  | 'f' :: rest => some (.char '\x0c', rest)
  | 'r' :: rest => some (.char '\r', rest)
  | 'u' :: rest => do
      let (unit, rest) ← readUnit rest
      if 0xd800 ≤ unit ∧ unit < 0xdc00 then
        let rest ← dropWord? ['\\', 'u'] rest
        let (low, rest) ← readUnit rest
        guard (0xdc00 ≤ low ∧ low < 0xe000)
        return (.char (Char.ofNat (0x10000 + (unit - 0xd800) * 0x400 + (low - 0xdc00))), rest)
      else if 0xdc00 ≤ unit ∧ unit < 0xe000 then
        let unit ← strayByte? unit
        return (unit, rest)
      else return (.char (Char.ofNat unit), rest)
  | _ => none

/-- Read the inside of a string up to its closing quote. -/
def readString : Nat → List Char → Option (List RawUnit × List Char)
  | 0, _ => none
  | _ + 1, [] => none
  | _ + 1, '"' :: rest => some ([], rest)
  | fuel + 1, '\\' :: rest => do
      let (unit, rest) ← readEscape rest
      let (units, rest) ← readString fuel rest
      return (unit :: units, rest)
  | fuel + 1, c :: rest => do
      guard (0x20 ≤ c.toNat)
      let (units, rest) ← readString fuel rest
      return (.char c :: units, rest)

def isNumberChar (c : Char) : Bool :=
  c.isDigit || c == '-' || c == '+' || c == '.' || c == 'e' || c == 'E'

/-- The text of a number is well formed: no superfluous zero in front, and digits on both sides
of a point. -/
def isNumberText (cs : List Char) : Bool :=
  let body := match cs with
    | '-' :: rest => rest
    | cs => cs
  let whole := body.takeWhile Char.isDigit
  let rest := body.dropWhile Char.isDigit
  let wholeFits := !whole.isEmpty && (whole.length == 1 || whole.head? != some '0')
  match rest with
  | '.' :: after => wholeFits && !(after.takeWhile Char.isDigit).isEmpty
  | _ => wholeFits

def ofNumberText? (cs : List Char) : Option Json :=
  if !isNumberText cs then none
  else
    let (negative, body) := readSign cs
    if body.all Char.isDigit then
      if maxDigits < body.length then none
      else
        let n : Int := digitsValue body
        some (.int (if negative then -n else n))
    else (readDecimal negative body).map .float

/-- Read a document that is a word or a number. -/
def readAtom (cs : List Char) : Option (Json × List Char) :=
  match cs with
  | 'n' :: _ => (dropWord? "null".toList cs).map (.null, ·)
  | 't' :: _ => (dropWord? "true".toList cs).map (.bool true, ·)
  | 'f' :: _ => (dropWord? "false".toList cs).map (.bool false, ·)
  | _ => (ofNumberText? (cs.takeWhile isNumberChar)).map (·, cs.dropWhile isNumberChar)

mutual

/-- Read a document at the front of a text, after white space. -/
def readValue : Nat → List Char → Option (Json × List Char)
  | 0, _ => none
  | fuel + 1, cs => match skipSpace cs with
    | '"' :: rest => do
        let (units, rest) ← readString (rest.length + 1) rest
        return (ofRaw ⟨units⟩, rest)
    | '[' :: rest => match skipSpace rest with
      | ']' :: rest => some (.list [], rest)
      | rest => do
          let (items, rest) ← readItems fuel rest
          return (.list items, rest)
    | '\x7b' :: rest => match skipSpace rest with
      | '\x7d' :: rest => some (.object [], rest)
      | rest => do
          let (members, rest) ← readMembers fuel rest
          return (.object (members.foldl (fun all (key, value) => put all key value) []), rest)
    | cs => readAtom cs

/-- Read the items of a list up to the closing bracket; there is at least one. -/
def readItems : Nat → List Char → Option (List Json × List Char)
  | 0, _ => none
  | fuel + 1, cs => do
      let (item, rest) ← readValue fuel cs
      match skipSpace rest with
      | ',' :: rest => do
          let (items, rest) ← readItems fuel rest
          return (item :: items, rest)
      | ']' :: rest => return ([item], rest)
      | _ => none

/-- Read the members of an object up to the closing brace; there is at least one. -/
def readMembers : Nat → List Char → Option (List (String × Json) × List Char)
  | 0, _ => none
  | fuel + 1, cs => match skipSpace cs with
    | '"' :: rest => do
        let (units, rest) ← readString (rest.length + 1) rest
        let key ← RawText.text? ⟨units⟩
        let rest ← dropWord? [':'] (skipSpace rest)
        let (value, rest) ← readValue fuel rest
        match skipSpace rest with
        | ',' :: rest => do
            let (members, rest) ← readMembers fuel rest
            return ((key, value) :: members, rest)
        | '\x7d' :: rest => return ([(key, value)], rest)
        | _ => none
    | _ => none

end

/-- The document that a text is; nothing but white space may stand around it. -/
def ofText (s : String) : Option Json :=
  match readValue (2 * s.toList.length + 2) s.toList with
  | some (document, rest) => if (skipSpace rest).isEmpty then some document else none
  | none => none

end QueryGate.Json
