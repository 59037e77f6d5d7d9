import QueryGate.Payload.Record
import QueryGate.Tool

/-!
# The server

The server holds its settings, the database service and the gate, all of which are absent until
it is initialised. Each request initialises the server if it has to. The answer to a request is a
text: the payload of its result, or the payload of its failure. There is no answer only where the
failure cannot be written either.

A signal shuts the server down: its resources are cleaned up and the program exits.
-/

namespace QueryGate

open QueryGate.Payload QueryGate.Text

structure Server where
  settings : Option Settings := none
  service : Option Service := none
  gate : Option Gate := none

namespace Server

abbrev Action := Act Server

def log (level : Log.Level) (message : RawText) : Action Unit :=
  Act.note level Log.Channel.server message

def chooseSettings (given : Option Settings) : Action Settings := do
  match given with
  | some settings => return settings
  | none => match Settings.ofEnvironment (← Act.world).environment with
    | .ok settings => return settings
    | .error failure => throw (Fault.ofSettingsError failure)

/-- Start the server up: take the settings, set up the gate, open a pool and probe the
database. The service becomes the server's own only after the probe. -/
def startUp (given : Option Settings) : Action (Service × Gate) := do
  let settings ← chooseSettings given
  let gate : Gate := ⟨settings.allowWrites, Log.Channel.serverGate⟩
  Act.update fun server => { server with settings := some settings, gate := some gate }
  let (_, service) ← Act.onOther (Service.new settings) do
    Service.connect
    Service.probe
  Act.update fun server => { server with service := some service }
  if settings.allowWrites then
    log .warning "Write operations are ENABLED (DANGEROUSLY_ALLOW_WRITE_OPS)"
  log .info "Database connection established"
  return (service, gate)

/-- Initialise the server unless it is. -/
def ensureInitialized : Action (Service × Gate) := do
  let server ← Act.self
  match server.service, server.gate with
  | some service, some gate => return (service, gate)
  | _, _ => startUp server.settings

/-- Run an action on the server's service. -/
def onService {α : Type} (service : Service) (act : Service.Action α) : Action α :=
  Act.onPart service (fun service server => { server with service := some service }) act

def written (document : Except Unwritable Json) : Action String :=
  match document with
  | .ok document => return Payload.text document
  | .error failure => throw (.unwritable failure)

/-- Answer a request that failed: any exception is logged and answered with the payload of a
failure. The two texts say for which request an error of the service, or any other exception, is
logged. -/
def answerFault (errorText exceptionText : String) (fault : Fault) : Action String :=
  match fault with
  | .service error => do
      log .error (errorText ++ ": " ++ error.message)
      written (Failure.ofFault fault).document
  | fault =>
      if fault.isException then do
        Act.send ⟨.error, Log.Channel.server, exceptionText ++ ": " ++ fault.message, none,
          .raised fault⟩
        written (Failure.ofFault fault).document
      else throw fault

/-- Answer a request, also if it failed. -/
def answer (errorText exceptionText : String) (act : Action String) : Action String :=
  act.recover (answerFault errorText exceptionText)

def handleQuery (sql : String) : Action String :=
  answer "Query tool error" "Unexpected error in query tool" do
    let (service, gate) ← ensureInitialized
    let result ← onService service (Tool.query gate sql)
    log .info ("Query returned " ++ toString result.rowCount ++ " rows in " ++
      logFloat.write result.milliseconds ++ "ms")
    written result.document

/-- Answer a request for the list of tables. -/
def handleTables : Action String :=
  answer "Tables resource error" "Unexpected error in tables resource" do
    let (service, _) ← ensureInitialized
    let list ← onService service Tool.tables
    written (.ok list.document)

def handleTableDetails (schema table : String) : Action String :=
  answer ("Table detail resource error for " ++ schema ++ "." ++ table)
    "Unexpected error in table detail resource" do
    let (service, _) ← ensureInitialized
    let details ← onService service (Tool.tableDetails schema table)
    written details.document

/-- Close the service. An exception while closing is logged and does not keep the service. -/
def cleanUp : Action Unit := do
  log .info "Cleaning up resources..."
  match (← Act.self).service with
  | none => log .info "Shutdown complete"
  | some service => do
      (onService service Service.close).recover fun fault =>
        if fault.isException then
          log .error ("Error closing database connections: " ++ fault.message)
        else throw fault
      Act.update fun server => { server with service := none }
      log .info "Shutdown complete"

end Server

def signalNames : List (Int × String) :=
  [(1, "SIGHUP"), (2, "SIGINT"), (3, "SIGQUIT"), (4, "SIGILL"), (5, "SIGTRAP"), (6, "SIGABRT"),
   (7, "SIGBUS"), (8, "SIGFPE"), (9, "SIGKILL"), (10, "SIGUSR1"), (11, "SIGSEGV"),
   (12, "SIGUSR2"), (13, "SIGPIPE"), (14, "SIGALRM"), (15, "SIGTERM"), (16, "SIGSTKFLT"),
   (17, "SIGCHLD"), (18, "SIGCONT"), (19, "SIGSTOP"), (20, "SIGTSTP"), (21, "SIGTTIN"),
   (22, "SIGTTOU"), (23, "SIGURG"), (24, "SIGXCPU"), (25, "SIGXFSZ"), (26, "SIGVTALRM"),
   (27, "SIGPROF"), (28, "SIGWINCH"), (29, "SIGIO"), (30, "SIGPWR"), (31, "SIGSYS"),
   (34, "SIGRTMIN"), (64, "SIGRTMAX")]

def interruptSignal : Int := 2

def terminationSignal : Int := 15

def Value.equalInteger? : Value → Option Int
  | .int n => some n
  | .bool b => some (if b then 1 else 0)
  | .float x => if x.isFinite && x.isIntegral then some x.truncate else none
  | .decimal d => if d.isIntegral then d.truncate? else none
  | _ => none

namespace Server

/-- Clean up and exit on a signal, which should be given by its number. -/
def shutDown (signal : Value) : Action Unit := do
  match signal.equalInteger?.bind fun n => signalNames.lookup n with
  | none =>
      if signal.fits then throw (.plain .value (signal.literal ++ " is not a valid Signals"))
      else throw .oversized
  | some name => do
      log .info ("Received " ++ name ++ ", shutting down gracefully...")
      cleanUp
      throw (.exit 0)

end Server

end QueryGate
