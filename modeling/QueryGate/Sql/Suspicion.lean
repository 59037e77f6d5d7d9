import QueryGate.Text.Character

/-!
# Suspicious patterns

Seven patterns point to an injection attempt. A pattern is a sequence of items: a character,
compared without regard to case; optional or required whitespace; or a gap of characters other
than the line feed. A query shows a pattern if some part of it, anywhere, matches the sequence.
Patterns are reported by their source text and never change a verdict.
-/

namespace QueryGate.Sql

open QueryGate.Text

inductive PatternItem where
  /-- This character, in either case. -/
  | char (c : Char)
  /-- Any number of blank characters. -/
  | blanks
  /-- At least one blank character. -/
  | someBlanks
  /-- Any number of characters other than the line feed. -/
  | gap
  deriving DecidableEq, Repr

/-- The representative of a character under comparison without regard to case: ASCII letters go
to lower case, and so do the four further characters whose other case is an ASCII letter. -/
def foldCase (c : Char) : Char :=
  match c with
  | '\u017f' => 's'
  | '\u0130' => 'i'
  | '\u0131' => 'i'
  | '\u212a' => 'k'
  | c => c.toLower

/-- What is left of a text after each front part that consists of characters of a class, the
empty front part first. -/
def restsPast (p : Char → Bool) : List Char → List (List Char)
  | [] => [[]]
  | c :: rest => (c :: rest) :: (if p c then restsPast p rest else [])

/-- The sequence of items matches some front part of the text. -/
def matchesFront : List PatternItem → List Char → Bool
  | [], _ => true
  | .char _ :: _, [] => false
  | .char p :: items, c :: rest => foldCase c == foldCase p && matchesFront items rest
  | .blanks :: items, cs => (restsPast isBlank cs).any (matchesFront items)
  | .someBlanks :: _, [] => false
  | .someBlanks :: items, c :: rest =>
      isBlank c && (restsPast isBlank rest).any (matchesFront items)
  | .gap :: items, cs => (restsPast (· != '\n') cs).any (matchesFront items)

/-- The sequence of items matches some part of the text. -/
def matchesSomewhere (items : List PatternItem) : List Char → Bool
  | [] => matchesFront items []
  | c :: rest => matchesFront items (c :: rest) || matchesSomewhere items rest

/-- The source text of an item; the characters that patterns use for themselves are escaped. -/
def PatternItem.source : PatternItem → String
  | .char c => if c == '*' || c == '(' then String.ofList ['\\', c] else String.singleton c
  | .blanks => "\\s*"
  | .someBlanks => "\\s+"
  | .gap => ".*"

def patternSource (items : List PatternItem) : String := String.join (items.map (·.source))

def letters (word : String) : List PatternItem := word.toList.map .char

/-- The suspicious patterns in the order in which they are reported: a second statement that
drops, a second statement that deletes, a union with a null row, a drop behind a block comment,
a drop in a line comment, the command shell, and dynamic execution. -/
def suspiciousPatterns : List (List PatternItem) :=
  [letters ";" ++ [.blanks] ++ letters "drop" ++ [.someBlanks],
   letters ";" ++ [.blanks] ++ letters "delete" ++ [.someBlanks] ++ letters "from" ++ [.someBlanks],
   letters "union" ++ [.someBlanks] ++ letters "all" ++ [.someBlanks] ++ letters "select" ++
     [.someBlanks] ++ letters "null",
   letters "/*" ++ [.gap] ++ letters "*/" ++ [.blanks] ++ letters "drop",
   letters "--" ++ [.gap] ++ letters "drop" ++ [.someBlanks],
   letters "xp_cmdshell",
   letters "exec" ++ [.blanks] ++ letters "("]

/-- The sources of the suspicious patterns that a query shows, in table order. -/
def findSuspicious (query : String) : List String :=
  (suspiciousPatterns.filter fun items => matchesSomewhere items query.toList).map patternSource

end QueryGate.Sql
