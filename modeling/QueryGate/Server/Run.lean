import QueryGate.CommandLine.Program
import QueryGate.Health
import QueryGate.Log.Logbook
import QueryGate.Server.Basic

/-!
# The life of the server process

The process reads its command line and its settings and sets up the log. Then it starts the
server up, starts the health service if a port is given for it, and serves the tools. Whatever
happens after the log is set up, the resources are cleaned up at the end.
-/

namespace QueryGate.Server

open QueryGate.CommandLine QueryGate.Text

/-- Serve the health service. Exceptions are logged. -/
def serveHealth {σ : Type} (health : Health) : Act σ Unit :=
  health.listen.recover fun fault =>
    if fault.isException then
      Act.note .error Log.Channel.server ("Health API error: " ++ fault.message)
    else throw fault

/-- Start the health service in a thread of its own, if a port is given for it. -/
def startHealth (settings : Settings) (arguments : Arguments) : Action Unit := do
  match arguments.activeHealthPort with
  | none => return ()
  | some port => do
      let health : Health :=
        { host := arguments.hostValue, port := .int port, allowWrites := .bool settings.allowWrites,
          started := ← Act.readNow }
      Act.enter (.startThread true (some settings.allowWrites)) .done
      serveHealth health

/-- Start the server up and serve the tools. -/
def serve (settings : Settings) (arguments : Arguments) : Action Unit := do
  let _ ← startUp (some settings)
  startHealth settings arguments
  if arguments.mode = .value .stdio then
    log .info "Starting PostgreSQL MCP Server in stdio mode..."
  arguments.transport.serve

/-- Install the handlers of signals, serve, and clean up at the end. An interrupt ends the
process in an orderly way, and after an exception it exits with code 1. -/
def live (settings : Settings) (arguments : Arguments) : Action Unit := do
  Act.enter (.onSignal interruptSignal) .done
  Act.enter (.onSignal terminationSignal) .done
  Act.ensuring
    (Act.recover (serve settings arguments) fun fault =>
      match fault with
      | .interrupt _ => log .info "Server shutdown requested via keyboard interrupt"
      | fault =>
          if fault.isException then do
            log .error ("Failed to start server: " ++ fault.message)
            throw (.exit 1)
          else throw fault)
    cleanUp

def logSetup (settings : Settings) (environment : Environment) : Log.Setup where
  levelName :=
    .text (if settings.debug then "DEBUG" else (environment.text? "LOG_LEVEL").getD "INFO")
  format :=
    if String.ofList (lower ((environment.text? "LOG_JSON").getD "false").toList) == "true" then
      .json
    else .plain
  file := (environment.get? "LOG_FILE").filter fun path => !path.isEmpty

/-- A run of the server process: how it ends, what it writes to standard output and, besides log
lines, to standard error, and the server, the world and the log at its end. -/
structure Run where
  result : Except Fault Unit
  output : String
  messages : String
  stage : Stage Server
  book : Log.Logbook

/-- What a run writes to standard error: messages and log lines. -/
def Run.errors (run : Run) : String := run.messages ++ run.book.console

/-- Run the server process in a world. All log records have the same origin. -/
def run (program : String) (origin : Log.Origin) (world : World) (arguments : List String) : Run :=
  let stage : Stage Server := ⟨{}, world⟩
  match serverGrammarIn program world.environment with
  | .error fault => ⟨.error fault, "", "", stage, .initial⟩
  | .ok grammar => match grammar.parse arguments with
    | .error stop =>
        let farewell := grammar.farewell stop
        ⟨.error (.exit farewell.code), farewell.output, farewell.errors, stage, .initial⟩
    | .ok arguments => match Settings.ofEnvironment world.environment with
      | .error failure =>
          let (_, book) := Log.Logbook.initial.setUp world.disk { levelName := .text "ERROR" }
          ⟨.error (.exit 1), "", "Configuration Error: " ++ failure.message ++ "\n", stage, book⟩
      | .ok settings =>
          match Log.Logbook.initial.setUp world.disk (logSetup settings world.environment) with
          | (.error fault, book) => ⟨.error fault, "", "", stage, book⟩
          | (.ok (), book) =>
              let (result, stage) := (live settings arguments).start stage
              ⟨result, "", "", stage,
                stage.world.records.foldl (fun book record => book.write origin record) book⟩

end QueryGate.Server
