import QueryGate.Text.Character
import QueryGate.Text.Lower

/-!
# Statements

The scanner walks a text once and tells separating semicolons from semicolons inside quoted
texts and comments. It knows five regions. A doubled delimiter stays inside its quoted text, a
block comment ends at the first `*/`, and a text may end in any region. `Region.move` decides one
step from the character at hand and the one after it, `cut` gives the stretches between
separators, and `regionAfter` gives the region in which the scan ends.

A query is split into its statements: the stretches between separators, trimmed, without the
empty ones. A statement is classified by its leading keyword, the first word after whitespace,
open parentheses and comments. It counts as a write unless that keyword is known to be safe; a
`WITH` statement counts as a write as soon as any write word occurs anywhere in its text.
-/

namespace QueryGate.Sql

open QueryGate.Text

/-- Where the scanner stands: in plain SQL, in a quoted text of either kind, or in a comment of
either kind. -/
inductive Region where
  | code
  | single
  | double
  | line
  | block
  deriving DecidableEq, Repr

/-- What the scanner does with the front of a text. -/
inductive Move where
  /-- A separator: the stretch ends before it, and the next one starts in plain SQL. -/
  | separate
  /-- One character belongs to the stretch. -/
  | one (next : Region)
  /-- Two characters belong to the stretch and are read together. -/
  | two (next : Region)
  deriving DecidableEq, Repr

/-- The scanner's decision in a region, from a character and the character after it. -/
def Region.move : Region → Char → Option Char → Move
  | .code, '/', some '*' => .two .block
  | .code, '-', some '-' => .two .line
  | .code, '\x27', _ => .one .single
  | .code, '"', _ => .one .double
  | .code, ';', _ => .separate
  | .line, '\n', _ => .one .code
  | .block, '*', some '/' => .two .code
  | .single, '\x27', some '\x27' => .two .single
  | .single, '\x27', _ => .one .code
  | .double, '"', some '"' => .two .double
  | .double, '"', _ => .one .code
  | region, _, _ => .one region

theorem Region.move_code (c : Char) (next : Option Char) :
    Region.code.move c next =
      if c = '/' ∧ next = some '*' then .two .block
      else if c = '-' ∧ next = some '-' then .two .line
      else if c = '\x27' then .one .single
      else if c = '"' then .one .double
      else if c = ';' then .separate else .one .code := by
  unfold Region.move
  split <;> grind

theorem Region.move_line (c : Char) (next : Option Char) :
    Region.line.move c next = .one (if c = '\n' then .code else .line) := by
  by_cases hc : c = '\n' <;> simp [Region.move, hc]

theorem Region.move_block (c : Char) (next : Option Char) :
    Region.block.move c next =
      if c = '*' ∧ next = some '/' then .two .code else .one .block := by
  unfold Region.move
  split <;> grind

theorem Region.move_single (c : Char) (next : Option Char) :
    Region.single.move c next =
      if c = '\x27' then if next = some '\x27' then .two .single else .one .code
      else .one .single := by
  unfold Region.move
  split <;> grind

theorem Region.move_double (c : Char) (next : Option Char) :
    Region.double.move c next =
      if c = '"' then if next = some '"' then .two .double else .one .code
      else .one .double := by
  unfold Region.move
  split <;> grind

/-- Put characters in front of the first stretch. -/
def prepend (front : List Char) (stretches : List Char × List (List Char)) :
    List Char × List (List Char) :=
  (front ++ stretches.1, stretches.2)

/-- The stretches of a text whose scan starts in the given region: the first one, and those
after the separators. -/
def cut : Region → List Char → List Char × List (List Char)
  | _, [] => ([], [])
  | region, c :: rest =>
      match region.move c rest.head?, rest with
      | .separate, rest =>
          let after := cut .code rest
          ([], after.1 :: after.2)
      | .one next, rest => prepend [c] (cut next rest)
      | .two next, d :: rest => prepend [c, d] (cut next rest)
      | .two _, [] => ([c], [])

/-- The region in which the scan of a text ends. -/
def regionAfter : Region → List Char → Region
  | region, [] => region
  | region, c :: rest =>
      match region.move c rest.head?, rest with
      | .separate, rest => regionAfter .code rest
      | .one next, rest => regionAfter next rest
      | .two next, _ :: rest => regionAfter next rest
      | .two next, [] => next

/-- All stretches of a text, in order; there is always at least one. -/
def stretches (cs : List Char) : List (List Char) :=
  (cut .code cs).1 :: (cut .code cs).2

/-- The statements of a query as lists of characters. -/
def splitChars (cs : List Char) : List (List Char) :=
  ((stretches cs).map trim).filter fun statement => !statement.isEmpty

/-- The statements of a query, trimmed, without empty ones, in order. -/
def split (query : String) : List String := (splitChars query.toList).map String.ofList

/-- What the search for a leading keyword is inside of. -/
inductive Skipping where
  | between
  | line
  | block
  deriving DecidableEq, Repr

/-- What the search does with the front of a text. -/
inductive SkipMove where
  /-- The keyword is looked for here. -/
  | stop
  /-- One character is passed over. -/
  | one (next : Skipping)
  /-- Two characters are passed over together. -/
  | two (next : Skipping)
  deriving DecidableEq, Repr

/-- The decision of the search, from a character and the character after it. -/
def Skipping.move : Skipping → Char → Option Char → SkipMove
  | .between, '(', _ => .one .between
  | .between, '-', some '-' => .two .line
  | .between, '/', some '*' => .two .block
  | .between, c, _ => if isBlank c then .one .between else .stop
  | .line, '\n', _ => .one .between
  | .line, _, _ => .one .line
  | .block, '*', some '/' => .two .between
  | .block, _, _ => .one .block

/-- The text that is left after whitespace, open parentheses and comments at its front. Nothing
is left after an unterminated comment. -/
def skip : Skipping → List Char → List Char
  | _, [] => []
  | skipping, c :: rest =>
      match skipping.move c rest.head?, rest with
      | .stop, rest => c :: rest
      | .one next, rest => skip next rest
      | .two next, _ :: rest => skip next rest
      | .two _, [] => []

/-- The first word of a statement as it is written; empty if there is none. -/
def leadingWord (cs : List Char) : List Char := (skip .between cs).takeWhile isWord

/-- The first keyword of a statement in lower case. -/
def leadingKeyword (statement : String) : Option String :=
  match leadingWord statement.toList with
  | [] => none
  | word => some (String.ofList (lower word))

/-- The first text occurs in the second as a contiguous part. -/
def occursIn (needle : List Char) : List Char → Bool
  | [] => needle.isEmpty
  | c :: rest => needle.isPrefixOf (c :: rest) || occursIn needle rest

/-- The words that write when a statement starts with them, and anywhere in a `WITH` statement. -/
def writeWords : List String :=
  ["insert", "update", "delete", "truncate", "drop", "alter", "create", "grant", "revoke",
   "import", "copy", "merge", "upsert", "replace"]

/-- The leading keywords that never write. -/
def safeWords : List String :=
  ["select", "with", "show", "explain", "values", "table", "describe", "desc"]

/-- Some write word occurs in the text, in any case. -/
def mentionsWrite (statement : String) : Bool :=
  let lowered := lower statement.toList
  writeWords.any fun word => occursIn word.toList lowered

/-- The statement may change data or schema. A statement without a keyword does not. -/
def isWrite (statement : String) : Bool :=
  match leadingKeyword statement with
  | none => false
  | some keyword =>
      if keyword == "with" then mentionsWrite statement else !safeWords.contains keyword

end QueryGate.Sql
