import QueryGate.CommandLine.Grammar
import QueryGate.Number.Reading

/-!
# Reading command lines

Every argument is classified first: as an option, perhaps with a value after an equals sign, as
an unknown option, as the separator `--`, or as a plain argument. Options may be abbreviated as
long as only one spelling fits; an abbreviation that fits several is an error before anything
else is looked at. Then the arguments are taken in order. What nothing takes is left over, and
leftovers are an error.
-/

namespace QueryGate.CommandLine

open QueryGate.Number QueryGate.Text

/-- Why a command line is refused. -/
inductive UsageError where
  | expectedValue (name : String)
  | invalidMode (name value : String)
  | invalidInteger (name value : String)
  | ignoredValue (name value : String)
  | ambiguous (argument : String) (spellings : List String)
  | unrecognized (arguments : List String)
  deriving DecidableEq, Repr

def UsageError.message : UsageError → String
  | .expectedValue name => "argument " ++ name ++ ": expected one argument"
  | .invalidMode name value =>
      "argument " ++ name ++ ": invalid choice: " ++ literal value ++ " (choose from " ++
        joinWith ", " (Mode.all.map fun mode => literal mode.word) ++ ")"
  | .invalidInteger name value =>
      "argument " ++ name ++ ": invalid int value: " ++ literal value
  | .ignoredValue name value =>
      "argument " ++ name ++ ": ignored explicit argument " ++ literal value
  | .ambiguous argument spellings =>
      "ambiguous option: " ++ argument ++ " could match " ++ joinWith ", " spellings
  | .unrecognized arguments => "unrecognized arguments: " ++ joinWith " " arguments

/-- What ends the reading of a command line early. -/
inductive Stop where
  | helpWanted
  | refused (error : UsageError)
  deriving DecidableEq, Repr

/-- A value that is attached to an option, to a short or to a long spelling. -/
structure Attached where
  isShort : Bool
  value : String
  deriving DecidableEq, Repr

/-- An argument with its class. -/
inductive Token where
  | argument (text : String)
  | separator
  | option (spec : OptionSpec) (attached : Option Attached)
  | unknownOption (text : String)
  deriving Repr

/-- The parts of a text before and after its first equals sign. -/
def splitAtEquals (text : String) : Option (String × String) :=
  match text.toList.dropWhile (· != '=') with
  | _ :: value => some (String.ofList (text.toList.takeWhile (· != '=')), String.ofList value)
  | [] => none

def allDigits (cs : List Char) : Bool := !cs.isEmpty && cs.all fun c => (digitValue? c).isSome

/-- The text is a negative number: a minus sign and digits, with at most one point, which has a
digit after it. -/
def isNegativeNumber (text : String) : Bool :=
  let body := match text.toList.getLast? with
    | some '\n' => text.toList.dropLast
    | _ => text.toList
  match body with
  | '-' :: number =>
      let whole := number.takeWhile (· != '.')
      match number.dropWhile (· != '.') with
      | _ :: fraction => (whole.isEmpty || allDigits whole) && allDigits fraction
      | [] => allDigits whole
  | _ => false

/-- The options that a text may stand for where it is no spelling itself: a long option may be
cut short, and a value may follow a short one directly. -/
def Grammar.candidates (grammar : Grammar) (text : String) :
    List (String × OptionSpec × Option Attached) :=
  match text.toList with
  | '-' :: '-' :: _ =>
      let (stem, attached) := match splitAtEquals text with
        | some (stem, value) => (stem, some (Attached.mk false value))
        | none => (text, none)
      (grammar.spellings.filter fun (spelling, _) =>
        stem.toList.isPrefixOf spelling.toList).map fun (spelling, option) =>
          (spelling, option, attached)
  | '-' :: c :: value =>
      (grammar.spellings.filter fun (spelling, _) =>
        spelling == String.ofList ['-', c]).map fun (spelling, option) =>
          (spelling, option, some ⟨true, String.ofList value⟩)
  | _ => []

/-- The option that a text names in full, with the value after an equals sign. -/
def Grammar.exact? (grammar : Grammar) (text : String) : Option Token :=
  match grammar.spellings.lookup text with
  | some option => some (.option option none)
  | none => do
      let (spelling, value) ← splitAtEquals text
      let option ← grammar.spellings.lookup spelling
      return .option option (some ⟨!"--".toList.isPrefixOf spelling.toList, value⟩)

/-- Classify an argument before the separator. -/
def Grammar.classify (grammar : Grammar) (text : String) : Except Stop Token :=
  if text.toList.head? != some '-' || text == "-" then .ok (.argument text)
  else match grammar.exact? text with
    | some token => .ok token
    | none => match grammar.candidates text with
      | [(_, option, attached)] => .ok (.option option attached)
      | [] =>
          if isNegativeNumber text || text.toList.contains ' ' then .ok (.argument text)
          else .ok (.unknownOption text)
      | several => .error (.refused (.ambiguous text (several.map Prod.fst)))

/-- Classify all arguments. After the separator all are plain. -/
def Grammar.tokens (grammar : Grammar) : List String → Except Stop (List Token)
  | [] => .ok []
  | "--" :: rest => .ok (.separator :: rest.map .argument)
  | text :: rest => do
      let token ← grammar.classify text
      return token :: (← grammar.tokens rest)

/-- What was read so far: the values, whether the argument that selects the transport may still
come, and what is left over. -/
structure Progress where
  arguments : Arguments
  argumentOpen : Bool
  leftovers : List String
  deriving Repr

/-- Put an argument among the leftovers. -/
def Progress.leave (progress : Progress) (text : String) : Progress :=
  { progress with leftovers := progress.leftovers ++ [text] }

def integerValue (name value : String) : Except Stop Int :=
  match readInteger value.toList with
  | .ok n => .ok n
  | .error _ => .error (.refused (.invalidInteger name value))

def modeValue (name value : String) : Except Stop Mode :=
  match Mode.ofWord? value with
  | some mode => .ok mode
  | none => .error (.refused (.invalidMode name value))

def OptionSpec.assign (option : OptionSpec) (value : String) (arguments : Arguments) :
    Except Stop Arguments :=
  match option.target with
  | .help => .error .helpWanted
  | .transport => do return { arguments with mode := .value (← modeValue option.name value) }
  | .host => .ok { arguments with host := .value value }
  | .port => do return { arguments with port := .value (← integerValue option.name value) }
  | .healthPort => do
      return { arguments with healthPort := some (.value (← integerValue option.name value)) }

def OptionSpec.clear (option : OptionSpec) (arguments : Arguments) : Arguments :=
  match option.target with
  | .help => arguments
  | .transport => { arguments with mode := .cleared }
  | .host => { arguments with host := .cleared }
  | .port => { arguments with port := .cleared }
  | .healthPort => { arguments with healthPort := some .cleared }

def Grammar.withoutValue? (grammar : Grammar) (spelling : String) : Option OptionSpec :=
  (grammar.spellings.lookup spelling).filter fun option => !option.takesValue

/-- What happens on a short option that takes no value but has characters attached to it: further
short options without values may follow, and help is wanted if nothing else does. -/
def Grammar.shortOptions (grammar : Grammar) (option : OptionSpec) : List Char → Stop
  | [] => .helpWanted
  | c :: rest => match grammar.withoutValue? (String.ofList ['-', c]) with
    | some next => grammar.shortOptions next rest
    | none => .refused (.ignoredValue option.name (String.ofList (c :: rest)))

/-- Set an option to its attached value. The separator is no value. -/
def Grammar.assignAttached (grammar : Grammar) (option : OptionSpec) (attached : Attached)
    (arguments : Arguments) : Except Stop Arguments :=
  if option.takesValue then
    if attached.value == "--" then .ok (option.clear arguments)
    else option.assign attached.value arguments
  else if attached.isShort && !attached.value.isEmpty then
    .error (grammar.shortOptions option attached.value.toList)
  else .error (.refused (.ignoredValue option.name attached.value))

def argumentName : String := "transport"

/-- Take the argument that selects the transport. -/
def Progress.choose (progress : Progress) (value : String) : Except Stop Progress := do
  let mode ← modeValue argumentName value
  return { progress with
    arguments := { progress.arguments with mode := .value mode }, argumentOpen := false }

/-- Take the arguments in order. The separator is passed over together with the argument that
selects the transport, on either side of it. -/
def Grammar.take (grammar : Grammar) (progress : Progress) : List Token → Except Stop Progress
  | [] => .ok progress
  | .option spec (some attached) :: rest => do
      let arguments ← grammar.assignAttached spec attached progress.arguments
      grammar.take { progress with arguments } rest
  | .option spec none :: rest =>
      if spec.takesValue then
        match rest with
        | .argument value :: rest => do
            let arguments ← spec.assign value progress.arguments
            grammar.take { progress with arguments } rest
        | _ => .error (.refused (.expectedValue spec.name))
      else .error .helpWanted
  | .unknownOption text :: rest => grammar.take (progress.leave text) rest
  | .argument text :: rest =>
      if progress.argumentOpen then do
        let chosen ← progress.choose text
        match rest with
        | .separator :: rest => grammar.take chosen rest
        | rest => grammar.take chosen rest
      else grammar.take (progress.leave text) rest
  | .separator :: rest =>
      if progress.argumentOpen then
        match rest with
        | .argument text :: rest => do grammar.take (← progress.choose text) rest
        | rest => grammar.take progress rest
      else grammar.take (progress.leave "--") rest

/-- Read a command line. -/
def Grammar.parse (grammar : Grammar) (arguments : List String) : Except Stop Arguments := do
  let tokens ← grammar.tokens arguments
  let progress ← grammar.take ⟨grammar.defaults, grammar.argument.isSome, []⟩ tokens
  if progress.leftovers.isEmpty then return progress.arguments
  else .error (.refused (.unrecognized progress.leftovers))

/-- What a program that stops early writes to standard output and standard error, and its exit
code. -/
structure Farewell where
  output : String
  errors : String
  code : Int
  deriving DecidableEq, Repr

/-- Help goes to standard output. A refused command line is answered on standard error with the
usage and the error. -/
def Grammar.farewell (grammar : Grammar) : Stop → Farewell
  | .helpWanted => ⟨grammar.help, "", 0⟩
  | .refused error =>
      ⟨"", grammar.usage ++ grammar.program ++ ": error: " ++ error.message ++ "\n", 2⟩

end QueryGate.CommandLine
