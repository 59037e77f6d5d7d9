import QueryGate.Server.Run

/-!
# The program

The server's command line as a program. No database driver is linked into it, so that opening the
pool fails; everything before that is carried out, and log lines and messages are written to the
standard streams.
-/

namespace QueryGate

/-- The environment variables that the program reads. -/
def variableNames : List String :=
  ["DATABASE_URL", "DANGEROUSLY_ALLOW_WRITE_OPS", "PG_MAX_CONNECTIONS", "PG_CONNECTION_TIMEOUT",
   "PG_STATEMENT_TIMEOUT", "PG_SSL_ROOT_CERT", "PG_REQUIRE_SSL", "DEBUG", "PORT", "LOG_LEVEL",
   "LOG_JSON", "LOG_FILE"]

/-- A world without a database driver. Of its files only that of the log is known. -/
def worldWithoutDriver (environment : Environment) : World where
  environment := environment
  disk := { files := (environment.get? "LOG_FILE").toList }
  script :=
    { openPool := [some (.error (.driver
        ⟨.operational, "no database driver is available", none, none⟩))] }

/-- The exit code and the last message of a run. -/
def Server.Run.exit (run : Server.Run) : UInt32 × String :=
  match run.result with
  | .ok () => (0, "")
  | .error (.exit code) => (UInt32.ofNat code.toNat, "")
  | .error fault => (1, fault.describe.escaped ++ "\n")

end QueryGate

open QueryGate in
/-- Read the environment, run the server, and write what it says. -/
def main (arguments : List String) : IO UInt32 := do
  let environment ← variableNames.filterMapM fun name => do
    return (← IO.getEnv name).map fun value => (name, Text.RawText.ofString value)
  let origin : Log.Origin :=
    { path := "server", function := "main", line := 1, millis := ← IO.monoMsNow }
  let run := Server.run "query-gate" origin (worldWithoutDriver environment) arguments
  let (code, message) := run.exit
  (← IO.getStdout).putStr run.output
  (← IO.getStderr).putStr (run.errors ++ message)
  return code
