import QueryGate.Number.Double
import QueryGate.Text.Encoding

/-!
# JSON documents

A document keeps integers apart from floats and keeps the order of the members of an object. A
text that holds stray bytes is a document of its own kind.

Two styles of JSON text are printed: indented payloads and one-line log records. A `Style` says
how characters are escaped, how floats are laid out, and what stands around the items of a list
or an object; one printer serves both. The short escapes and the escapes of control characters
are common to all styles, and stray bytes are always escaped by their numbers. A style may escape
further characters by their UTF-16 units.
-/

namespace QueryGate

open QueryGate.Number QueryGate.Text

inductive Json where
  | null
  | bool (b : Bool)
  | int (n : Int)
  | float (x : Double)
  | text (s : String)
  /-- A text with bytes that belong to no character. -/
  | raw (contents : RawText)
  | list (items : List Json)
  | object (members : List (String × Json))
  deriving Repr, Inhabited

namespace Json

/-- Put a value under a key: in the place of the old value, or at the end. -/
def put : List (String × Json) → String → Json → List (String × Json)
  | [], key, value => [(key, value)]
  | (k, v) :: rest, key, value =>
      if k = key then (k, value) :: rest else (k, v) :: put rest key value

/-- A raw text, as a text if it is one. -/
def ofRaw (raw : RawText) : Json :=
  match raw.text? with
  | some s => .text s
  | none => .raw raw

@[simp] theorem ofRaw_ofString (s : String) : ofRaw (.ofString s) = .text s := by
  simp [ofRaw]

/-- A text if there is one, and null otherwise. -/
def ofText? (s : Option String) : Json := (s.map .text).getD .null

def ofInt? (n : Option Int) : Json := (n.map .int).getD .null

/-- How JSON is printed. The three texts around the items depend on the depth of nesting. -/
structure Style where
  /-- The characters, beyond those that JSON demands, that are written by their number. -/
  escapes : Char → Bool
  /-- How floats are laid out. -/
  float : Layout
  /-- What stands between the opening bracket and the first item. -/
  opening : Nat → List Char
  /-- What stands between two items. -/
  between : Nat → List Char
  /-- What stands between the last item and the closing bracket. -/
  closing : Nat → List Char

/-- The characters that have an escape of two characters, with its second character. -/
def shortEscapes : List (Char × Char) :=
  [('"', '"'), ('\\', '\\'), ('\x08', 'b'), ('\t', 't'), ('\n', 'n'), ('\x0c', 'f'), ('\r', 'r')]

def unitEscape (unit : Nat) : List Char := '\\' :: 'u' :: hexDigits 4 unit

/-- The escape of a character by its number: one UTF-16 unit, or a pair of surrogates. -/
def numericEscape (c : Char) : List Char :=
  let n := c.toNat
  if n < 0x10000 then unitEscape n
  else unitEscape (0xd800 + (n - 0x10000) / 0x400) ++ unitEscape (0xdc00 + (n - 0x10000) % 0x400)

/-- A character inside a JSON string. -/
def escapeChar (escapes : Char → Bool) (c : Char) : List Char :=
  match shortEscapes.lookup c with
  | some letter => ['\\', letter]
  | none => if c.toNat < 0x20 || escapes c then numericEscape c else [c]

def quoted (escapes : Char → Bool) (s : String) : List Char :=
  '"' :: (s.toList.flatMap (escapeChar escapes) ++ ['"'])

/-- A unit of a raw text inside a JSON string. -/
def escapeUnit (escapes : Char → Bool) : RawUnit → List Char
  | .char c => escapeChar escapes c
  | .byte excess => unitEscape (RawUnit.surrogate excess)

def quotedRaw (escapes : Char → Bool) (raw : RawText) : List Char :=
  '"' :: (raw.units.flatMap (escapeUnit escapes) ++ ['"'])

/-- Items between brackets; an empty list has nothing between them. -/
def Style.bracketed (style : Style) (depth : Nat) (first last : Char) :
    List (List Char) → List Char
  | [] => [first, last]
  | item :: rest =>
      first :: (style.opening depth ++ item ++
        rest.flatMap (style.between depth ++ ·) ++ style.closing depth ++ [last])

mutual

def Style.print (style : Style) (depth : Nat) : Json → List Char
  | .null => "null".toList
  | .bool b => if b then "true".toList else "false".toList
  | .int n => (toString n).toList
  | .float x => (style.float.write x).toList
  | .text s => quoted style.escapes s
  | .raw contents => quotedRaw style.escapes contents
  | .list items => style.bracketed depth '[' ']' (style.printItems (depth + 1) items)
  | .object members =>
      style.bracketed depth '\x7b' '\x7d' (style.printMembers (depth + 1) members)

def Style.printItems (style : Style) (depth : Nat) : List Json → List (List Char)
  | [] => []
  | item :: rest => style.print depth item :: style.printItems depth rest

def Style.printMembers (style : Style) (depth : Nat) : List (String × Json) → List (List Char)
  | [] => []
  | (key, value) :: rest =>
      (quoted style.escapes key ++ [':', ' '] ++ style.print depth value) ::
        style.printMembers depth rest

end

def Style.text (style : Style) (document : Json) : String := String.ofList (style.print 0 document)

end Json

end QueryGate
