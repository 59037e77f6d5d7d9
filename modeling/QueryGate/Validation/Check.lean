import QueryGate.Number.Reading
import QueryGate.Text.Encoding
import QueryGate.Text.Literal
import QueryGate.Value.Basic

/-!
# Rules and checks

An issue is what is wrong with one value; it has a kind, which names the rule, and a message. A
violation is an issue together with the place where it occurs and the value found there. The
report of invalid data lists all violations, one after the other.

A rule accepts a single value, possibly converting it, or rejects it with one issue. The rules are
lenient where a conversion loses nothing: integral floats and numeric texts pass for integers,
zero, one and some words pass for booleans.

A check accepts a value or reports all its violations, in the order in which the parts of the
record are declared. Checks of the fields of a record are combined with `<*>`, which keeps the
violations of both sides.
-/

namespace QueryGate.Validation

open QueryGate.Text QueryGate.Number

/-- What is wrong with a value. -/
inductive Issue where
  | missing
  | notText
  | undecodableText
  | emptyText
  | notInteger
  | unreadableInteger
  | oversizedInteger
  | fractionalInteger
  | notFinite
  | notNumber
  | unreadableNumber
  | notBoolean
  | unreadableBoolean
  | below (least : Int)
  | above (greatest : Int)
  | notList
  | notObject
  | notRecord (name : String)
  deriving DecidableEq, Repr

/-- The name of the rule that is broken. -/
def Issue.kind : Issue → String
  | .missing => "missing"
  | .notText => "string_type"
  | .undecodableText => "string_unicode"
  | .emptyText => "string_too_short"
  | .notInteger => "int_type"
  | .unreadableInteger => "int_parsing"
  | .oversizedInteger => "int_parsing_size"
  | .fractionalInteger => "int_from_float"
  | .notFinite => "finite_number"
  | .notNumber => "float_type"
  | .unreadableNumber => "float_parsing"
  | .notBoolean => "bool_type"
  | .unreadableBoolean => "bool_parsing"
  | .below _ => "greater_than_equal"
  | .above _ => "less_than_equal"
  | .notList => "list_type"
  | .notObject => "dict_type"
  | .notRecord _ => "model_type"

def Issue.message : Issue → String
  | .missing => "Field required"
  | .notText => "Input should be a valid string"
  | .undecodableText =>
      "Input should be a valid string, unable to parse raw data as a unicode string"
  | .emptyText => "String should have at least 1 character"
  | .notInteger => "Input should be a valid integer"
  | .unreadableInteger =>
      "Input should be a valid integer, unable to parse string as an integer"
  | .oversizedInteger => "Unable to parse input string as an integer, exceeded maximum size"
  | .fractionalInteger =>
      "Input should be a valid integer, got a number with a fractional part"
  | .notFinite => "Input should be a finite number"
  | .notNumber => "Input should be a valid number"
  | .unreadableNumber => "Input should be a valid number, unable to parse string as a number"
  | .notBoolean => "Input should be a valid boolean"
  | .unreadableBoolean => "Input should be a valid boolean, unable to interpret input"
  | .below least => "Input should be greater than or equal to " ++ toString least
  | .above greatest => "Input should be less than or equal to " ++ toString greatest
  | .notList => "Input should be a valid list"
  | .notObject => "Input should be a valid dictionary"
  | .notRecord name => "Input should be a valid dictionary or instance of " ++ name

/-- One step of the way from a message to one of its parts. -/
inductive Step where
  | field (name : String)
  | index (n : Nat)
  deriving DecidableEq, Repr

def Step.text : Step → String
  | .field name => name
  | .index n => toString n

/-- An issue at a place, with the value found there. -/
structure Violation where
  path : List Step
  issue : Issue
  input : Value
  deriving Repr

/-- The place of a violation, with points between the steps. -/
def Violation.location (violation : Violation) : String :=
  joinWith "." (violation.path.map (·.text))

/-- The characters that lie wholly within so many bytes at the front. -/
def takeBytes : Nat → List Char → List Char
  | _, [] => []
  | room, c :: rest =>
      if c.utf8Size ≤ room then c :: takeBytes (room - c.utf8Size) rest else []

/-- A long text is shown by its first 25 and its last 24 bytes, cut between characters. -/
def abridged (s : String) : String :=
  if s.utf8ByteSize ≤ 50 then s
  else
    String.ofList (takeBytes 25 s.toList) ++ "..." ++
      String.ofList (takeBytes 24 s.toList.reverse).reverse

/-- The input of a violation as the report shows it. One that cannot be written is only named. -/
def Violation.shownInput (violation : Violation) : String :=
  if violation.input.fits then abridged violation.input.literal
  else "<unprintable " ++ violation.input.kindName ++ " object>"

def Violation.report (violation : Violation) : String :=
  (if violation.path.isEmpty then "" else violation.location ++ "\n") ++
    "  " ++ violation.issue.message ++ " [type=" ++ violation.issue.kind ++
    ", input_value=" ++ violation.shownInput ++
    ", input_type=" ++ violation.input.kindName ++ "]\n" ++
    "    For further information visit https://errors.pydantic.dev/2.14/v/" ++
    violation.issue.kind

/-- Data that is no valid record of a kind. -/
structure InvalidData where
  record : String
  violations : List Violation
  deriving Repr

def InvalidData.message (data : InvalidData) : String :=
  let count := data.violations.length
  toString count ++ " validation error" ++ (if count = 1 then "" else "s") ++ " for " ++
    data.record ++ "\n" ++ joinWith "\n" (data.violations.map (·.report))

abbrev Rule (α : Type) := Value → Except Issue α

/-- Integers of this size and beyond are neither made from floats nor looked at as booleans. -/
def wordBound : Nat := twoTo 63

def integerOfDouble (x : Double) : Except Issue Int :=
  if !x.isFinite then .error .notFinite
  else if !x.isIntegral then .error .fractionalInteger
  else if wordBound ≤ x.truncate.natAbs then .error .oversizedInteger
  else .ok x.truncate

def integerOfDecimal (d : Decimal) : Except Issue Int :=
  match d.truncate? with
  | none => .error .notFinite
  | some n => if d.isIntegral then .ok n else .error .fractionalInteger

def integerOfText (cs : List Char) : Except Issue Int :=
  match readStrictInteger cs with
  | .ok n => .ok n
  | .error .badLiteral => .error .unreadableInteger
  | .error (.tooManyDigits _) => .error .oversizedInteger

/-- The text of a byte string, or the given issue. -/
def decodedOr (issue : Issue) (data : List UInt8) : Except Issue String :=
  match decodeUtf8 data with
  | .ok s => .ok s
  | .error _ => .error issue

def integer : Rule Int
  | .int n => .ok n
  | .bool b => .ok (if b then 1 else 0)
  | .float x => integerOfDouble x
  | .decimal d => integerOfDecimal d
  | .text s => integerOfText s.toList
  | .bytes data => do integerOfText (← decodedOr .unreadableInteger data).toList
  | _ => .error .notInteger

def integerFrom (least : Int) (greatest : Option Int) : Rule Int := fun value => do
  let n ← integer value
  if n < least then .error (.below least)
  else match greatest with
    | some bound => if bound < n then .error (.above bound) else .ok n
    | none => .ok n

def trueWords : List String := ["1", "on", "t", "true", "y", "yes"]

def falseWords : List String := ["0", "off", "f", "false", "n", "no"]

/-- The boolean that a word stands for, in any case. -/
def booleanOfText (s : String) : Except Issue Bool :=
  let word := String.ofList (s.toList.map Char.toLower)
  if trueWords.contains word then .ok true
  else if falseWords.contains word then .ok false
  else .error .unreadableBoolean

def booleanOfInteger (n : Int) : Except Issue Bool :=
  if n = 0 then .ok false else if n = 1 then .ok true else .error .unreadableBoolean

def booleanOfDouble (x : Double) : Except Issue Bool :=
  match integerOfDouble x with
  | .ok n => booleanOfInteger n
  | .error _ => .error .notBoolean

/-- Booleans, zero and one, and words for them. -/
def boolean : Rule Bool
  | .bool b => .ok b
  | .int n =>
      if -(wordBound : Int) ≤ n ∧ n < wordBound then booleanOfInteger n else .error .notBoolean
  | .float x => booleanOfDouble x
  | .decimal d => match d.toDouble? with
    | some x => booleanOfDouble x
    | none => .error .notBoolean
  | .text s => booleanOfText s
  | .bytes data => do booleanOfText (← decodedOr .unreadableBoolean data)
  | _ => .error .notBoolean

def text : Rule String
  | .text s => .ok s
  | .bytes data => decodedOr .undecodableText data
  | _ => .error .notText

def nonemptyText : Rule String := fun value => do
  let s ← text value
  if s.isEmpty then .error .emptyText else .ok s

/-- The value is absent, or the rule applies. -/
def orNull {α : Type} (rule : Rule α) : Rule (Option α)
  | .null => .ok none
  | value => (rule value).map some

/-- Floats, and values that can be converted to one. -/
def float : Rule Double
  | .float x => .ok x
  | .int n => match Double.ofInt n with
    | .infinity _ => .error .notNumber
    | x => .ok x
  | .bool b => .ok (Double.ofInt (if b then 1 else 0))
  | .decimal d => match d.toDouble? with
    | some x => .ok x
    | none => .error .notNumber
  | .text s => readFloat s.toList
  | .bytes data => do readFloat (← decodedOr .unreadableNumber data).toList
  | _ => .error .notNumber
where
  /-- The float that a text stands for. -/
  readFloat (cs : List Char) : Except Issue Double :=
    match readStrict cs with
    | some x => .ok x
    | none => .error .unreadableNumber

/-- Floats that are zero or above. A NaN is not. -/
def nonnegativeFloat : Rule Double := fun value => do
  let x ← float value
  if x = .nan || x.isNegative then .error (.below 0) else .ok x

inductive Checked (α : Type) where
  | valid (value : α)
  | invalid (violations : List Violation)
  deriving Repr

namespace Checked

variable {α β : Type}

/-- Apply a function to the accepted value. -/
def map (f : α → β) : Checked α → Checked β
  | .valid value => .valid (f value)
  | .invalid violations => .invalid violations

/-- Accept if both are accepted; otherwise report the violations of both. -/
def seq : Checked (α → β) → Checked α → Checked β
  | .valid f, .valid value => .valid (f value)
  | .valid _, .invalid violations => .invalid violations
  | .invalid violations, .valid _ => .invalid violations
  | .invalid first, .invalid second => .invalid (first ++ second)

instance : Applicative Checked where
  pure := .valid
  map := map
  seq f x := seq f (x ())

/-- Put a step in front of the places of all violations. -/
def under (step : Step) : Checked α → Checked α
  | .valid value => .valid value
  | .invalid violations =>
      .invalid (violations.map fun violation => { violation with path := step :: violation.path })

/-- The violations; none if the value is accepted. -/
def violations : Checked α → List Violation
  | .valid _ => []
  | .invalid violations => violations

def toExcept (record : String) : Checked α → Except InvalidData α
  | .valid value => .ok value
  | .invalid violations => .error ⟨record, violations⟩

end Checked

abbrev Check (α : Type) := Value → Checked α

def Rule.check {α : Type} (rule : Rule α) : Check α := fun value =>
  match rule value with
  | .ok accepted => .valid accepted
  | .error issue => .invalid [⟨[], issue, value⟩]

/-- Check the items of a list, from an index on. -/
def checkItems {α : Type} (check : Check α) (index : Nat) : List Value → Checked (List α)
  | [] => .valid []
  | item :: rest =>
      .seq (.map List.cons ((check item).under (.index index))) (checkItems check (index + 1) rest)

/-- Lists whose items pass a check. -/
def listOf {α : Type} (check : Check α) : Check (List α)
  | .list items => checkItems check 0 items
  | value => .invalid [⟨[], .notList, value⟩]

def anyObject : Check Entries
  | .object entries => .valid entries
  | value => .invalid [⟨[], .notObject, value⟩]

/-- Records of a kind: objects whose entries pass a check. -/
def recordOf {α : Type} (name : String) (fields : Entries → Checked α) : Check α
  | .object entries => fields entries
  | value => .invalid [⟨[], .notRecord name, value⟩]

/-- The key of a field, and a second key that is looked at if the first is absent. -/
structure FieldKey where
  key : String
  otherwise : Option String
  deriving DecidableEq, Repr

instance : Coe String FieldKey := ⟨fun key => ⟨key, none⟩⟩

/-- The value of a field, with the key under which it was found. -/
def FieldKey.find? (field : FieldKey) (entries : Entries) : Option (String × Value) :=
  match entries.find? field.key with
  | some value => some (field.key, value)
  | none => field.otherwise.bind fun key => (entries.find? key).map (key, ·)

/-- A field that must be present. Where it is missing, the whole record is shown as the input. -/
def required {α : Type} (field : FieldKey) (check : Check α) (entries : Entries) : Checked α :=
  match field.find? entries with
  | some (key, value) => (check value).under (.field key)
  | none => .invalid [⟨[.field field.key], .missing, .object entries⟩]

def optional {α : Type} (field : FieldKey) (default : α) (check : Check α) (entries : Entries) :
    Checked α :=
  match field.find? entries with
  | some (key, value) => (check value).under (.field key)
  | none => .valid default

end QueryGate.Validation
