import QueryGate.CommandLine.Parse
import QueryGate.Value.Conversion

/-!
# The launcher and the server

The launcher selects the transport by an argument and starts the server as a program of its own.
It announces the addresses that the server will listen on, waits for the server to end, and ends
with the same exit code. The server has a command line of its own, whose default port the
environment may give.
-/

namespace QueryGate.CommandLine

open QueryGate.Text

/-- The text at the end of the launcher's help. -/
def launcherExamples : String :=
  "\nExamples:\n" ++
  "  # Run with stdio transport (for desktop MCP clients)\n" ++
  "  DATABASE_URL=postgresql://localhost/app python run.py stdio\n\n" ++
  "  # Run with streamable HTTP transport on a custom port with health API\n" ++
  "  python run.py http --port 3000 --health-port 8080\n\n" ++
  "  # Allow write statements (use with care)\n" ++
  "  DANGEROUSLY_ALLOW_WRITE_OPS=true python run.py stdio\n\n" ++
  "  # Run with debug logging\n" ++
  "  DEBUG=true python run.py http\n" ++
  "        \n"

def launcherGrammar : Grammar where
  program := "run.py"
  options :=
    [helpOption,
     portOption "Port for HTTP server (default: 3000)",
     hostOption,
     healthPortOption "Port for health API (optional, enables health monitoring)"]
  argument := some "Transport mode: stdio for CLI clients, http for streamable HTTP"
  closing := launcherExamples
  defaultPort := Transport.defaultPort

namespace Arguments

/-- HTTP is selected. -/
def selectsHttp (arguments : Arguments) : Bool := arguments.mode = .value .http

/-- The arguments with which the server is started. All are texts, but for a host that is
cleared. -/
def forServer (arguments : Arguments) : List Value :=
  [.text "--transport", arguments.modeValue] ++
    (if arguments.selectsHttp then
      [.text "--host", arguments.hostValue, .text "--port", .text arguments.portValue.display]
    else []) ++
    (match arguments.activeHealthPort with
    | none => []
    | some port => [.text "--health-port", .text (toString port)])

/-- What the launcher announces before it starts the server. -/
def announcement (arguments : Arguments) : String :=
  "Starting PostgreSQL MCP Server\n" ++
    "   Transport: " ++ arguments.modeValue.display ++ "\n" ++
    (if arguments.selectsHttp then
      "   Server: http://" ++ arguments.hostValue.display ++ ":" ++ arguments.portValue.display ++
        "/mcp\n"
    else "") ++
    (match arguments.activeHealthPort with
    | none => ""
    | some port =>
        "   Health API: http://" ++ arguments.hostValue.display ++ ":" ++ toString port ++
          "/health\n")

end Arguments

def serverCommand (interpreter : String) (arguments : Arguments) : List Value :=
  [.text interpreter, .text "-m", .text "postgres_mcp.cli.mcp_server"] ++ arguments.forServer

/-- A run of the launcher: how it ends, what it writes, and the commands it starts. -/
structure Launch where
  result : Except Fault Int
  output : String
  errors : String
  commands : List (List Value)
  deriving Repr

/-- Run the launcher. The child process gives an exit code or fails. -/
def launch (interpreter : String) (child : Except Fault Int) (arguments : List String) : Launch :=
  match launcherGrammar.parse arguments with
  | .error stop =>
      let farewell := launcherGrammar.farewell stop
      ⟨.ok farewell.code, farewell.output, farewell.errors, []⟩
  | .ok arguments =>
      let started := [serverCommand interpreter arguments]
      match child with
      | .error (.interrupt _) =>
          ⟨.ok 0, "", arguments.announcement ++ "\nServer stopped\n", started⟩
      | result => ⟨result, "", arguments.announcement, started⟩

def serverGrammar (program : String) (defaultPort : Int) : Grammar where
  program := program
  options :=
    [helpOption,
     ⟨.transport, ["--transport"], modePlaceholder, "Transport mode: stdio (default) or http"⟩,
     hostOption,
     portOption "Port for HTTP server (default: $PORT or 3000)",
     healthPortOption "Port for health API (disabled when omitted)"]
  argument := none
  closing := ""
  defaultPort := defaultPort

/-- The port that a value of the environment gives. A value that is no text is no integer. -/
def portOf (value : RawText) : Except Fault Int :=
  match value.text? with
  | some text => (Value.text text).toInteger
  | none => .error (invalidLiteral value.literal)

/-- The command line of the server in an environment, which may give the default port. A port
that is no integer is a fault. -/
def serverGrammarIn (program : String) (environment : Environment) : Except Fault Grammar := do
  match environment.get? "PORT" with
  | none => return serverGrammar program Transport.defaultPort
  | some value => return serverGrammar program (← portOf value)

/-- The transport that a command line selects: HTTP unless the standard streams are chosen. -/
def Arguments.transport (arguments : Arguments) : Transport :=
  if arguments.mode = .value .stdio then .stdio
  else .http arguments.hostValue arguments.portValue (.text Transport.defaultPath)

end QueryGate.CommandLine
