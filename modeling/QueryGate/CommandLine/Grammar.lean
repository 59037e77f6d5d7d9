import QueryGate.Transport

/-!
# Command lines

A command line has options, each with its spellings, and perhaps one optional argument that
selects the transport. A grammar lists the options in their order; it determines how arguments
are read and what usage and help say. Usage and help fit on lines of eighty characters.
-/

namespace QueryGate.CommandLine

open QueryGate.Text

/-- What an option or argument sets. -/
inductive Target where
  | help
  | transport
  | host
  | port
  | healthPort
  deriving DecidableEq, Repr

/-- The ways of serving that a command line selects between. -/
inductive Mode where
  | stdio
  | http
  deriving DecidableEq, Repr

def Mode.word : Mode → String
  | .stdio => "stdio"
  | .http => "http"

/-- All modes, in the order in which they are listed. -/
def Mode.all : List Mode := [.stdio, .http]

def Mode.ofWord? (word : String) : Option Mode := Mode.all.find? fun mode => mode.word == word

/-- An option of a command line. -/
structure OptionSpec where
  target : Target
  /-- The spellings; the first one is used in usage texts. -/
  spellings : List String
  /-- The placeholder of the option's value; empty if it takes none. -/
  placeholder : String
  description : String
  deriving Repr

/-- A command line. -/
structure Grammar where
  program : String
  options : List OptionSpec
  /-- The description of the optional argument that selects the transport, if there is one. -/
  argument : Option String
  /-- The text at the end of the help. -/
  closing : String
  defaultPort : Int
  deriving Repr

/-- What an option is set to. The separator in the place of a value is no value, and clears the
option. -/
inductive Choice (α : Type) where
  | value (a : α)
  | cleared
  deriving DecidableEq, Repr

/-- A choice as a value; a cleared option is an empty list. -/
def Choice.toValue {α : Type} (toValue : α → Value) : Choice α → Value
  | .value a => toValue a
  | .cleared => .list []

/-- The values that a command line sets. -/
structure Arguments where
  mode : Choice Mode
  host : Choice String
  port : Choice Int
  healthPort : Option (Choice Int)
  deriving DecidableEq, Repr

/-- The values before any argument is read. -/
def Grammar.defaults (grammar : Grammar) : Arguments :=
  ⟨.value .stdio, .value Transport.defaultHost, .value grammar.defaultPort, none⟩

namespace Arguments

def modeValue (arguments : Arguments) : Value := arguments.mode.toValue fun mode => .text mode.word

def hostValue (arguments : Arguments) : Value := arguments.host.toValue .text

def portValue (arguments : Arguments) : Value := arguments.port.toValue .int

def healthPortValue (arguments : Arguments) : Value :=
  (arguments.healthPort.map fun port => port.toValue .int).getD .null

/-- The values under the names of the options. -/
def entries (arguments : Arguments) : Entries :=
  [("transport", arguments.modeValue), ("host", arguments.hostValue),
   ("port", arguments.portValue), ("health_port", arguments.healthPortValue)]

/-- The port of the health service, if one is chosen. Port zero and a cleared port stand for
none. -/
def activeHealthPort (arguments : Arguments) : Option Int :=
  match arguments.healthPort with
  | some (.value port) => if port = 0 then none else some port
  | _ => none

end Arguments

def modePlaceholder : String :=
  "\x7b" ++ Text.joinWith "," (Mode.all.map (·.word)) ++ "\x7d"

def helpOption : OptionSpec :=
  ⟨.help, ["-h", "--help"], "", "show this help message and exit"⟩

def hostOption : OptionSpec :=
  ⟨.host, ["--host"], "HOST", "Host for HTTP server (default: 0.0.0.0)"⟩

def portOption (description : String) : OptionSpec := ⟨.port, ["--port"], "PORT", description⟩

def healthPortOption (description : String) : OptionSpec :=
  ⟨.healthPort, ["--health-port"], "HEALTH_PORT", description⟩

/-- The name of an option in messages: its spellings. -/
def OptionSpec.name (option : OptionSpec) : String := Text.joinWith "/" option.spellings

def OptionSpec.takesValue (option : OptionSpec) : Bool := option.target != .help

def Grammar.spellings (grammar : Grammar) : List (String × OptionSpec) :=
  grammar.options.flatMap fun option => option.spellings.map (·, option)

def lineWidth : Nat := 78

def helpColumn : Nat := 24

def blanks (n : Nat) : String := String.ofList (List.replicate n ' ')

/-- Distribute words over lines of a limited width. `line` holds the words of the current line,
which takes up `used` characters; each new line starts with `start` characters taken. -/
def pack (limit start : Nat) : List String → Nat → List String → List (List String)
  | line, _, [] => if line.isEmpty then [] else [line]
  | line, used, word :: rest =>
      if limit < used + word.length && !line.isEmpty then
        line :: pack limit start [word] (start + word.length + 1) rest
      else pack limit start (line ++ [word]) (used + word.length + 1) rest

/-- The lines of words, with blanks between the words. -/
def packed (limit first start : Nat) (words : List String) : List String :=
  (pack limit start [] first words).map (joinWith " ")

def OptionSpec.usage (option : OptionSpec) : String :=
  "[" ++ option.spellings.headD "" ++
    (if option.takesValue then " " ++ option.placeholder else "") ++ "]"

def Grammar.argumentUsage (grammar : Grammar) : List String :=
  match grammar.argument with
  | some _ => ["[" ++ modePlaceholder ++ "]"]
  | none => []

/-- The usage: one line if it fits, and otherwise lines that are indented up to the options, with
the argument on a line of its own. -/
def Grammar.usage (grammar : Grammar) : String :=
  let lead := "usage: "
  let words := grammar.program :: grammar.options.map (·.usage)
  let all := joinWith " " (words ++ grammar.argumentUsage)
  if lead.length + all.length ≤ lineWidth then lead ++ all ++ "\n"
  else
    let indent := lead.length + grammar.program.length + 1
    let lines := packed lineWidth lead.length indent words ++
      packed lineWidth indent indent grammar.argumentUsage
    lead ++ joinWith ("\n" ++ blanks indent) lines ++ "\n"

/-- An entry of the help: what is described, and its description from the column on, on the same
line if there is room. -/
def helpEntry (subject description : String) : String :=
  let lines := packed (lineWidth - helpColumn) 0 0 (description.splitOn " ")
  let body := joinWith ("\n" ++ blanks helpColumn) lines ++ "\n"
  if subject.length + 4 ≤ helpColumn then
    "  " ++ subject ++ blanks (helpColumn - 2 - subject.length) ++ body
  else "  " ++ subject ++ "\n" ++ blanks helpColumn ++ body

def OptionSpec.help (option : OptionSpec) : String :=
  helpEntry
    (joinWith ", " (option.spellings.map fun spelling =>
      if option.takesValue then spelling ++ " " ++ option.placeholder else spelling))
    option.description

def Grammar.argumentHelp (grammar : Grammar) : String :=
  match grammar.argument with
  | some description => "positional arguments:\n" ++ helpEntry modePlaceholder description ++ "\n"
  | none => ""

def Grammar.help (grammar : Grammar) : String :=
  grammar.usage ++ "\nPostgreSQL MCP Server\n\n" ++ grammar.argumentHelp ++ "options:\n" ++
    String.join (grammar.options.map (·.help)) ++ grammar.closing

end QueryGate.CommandLine
