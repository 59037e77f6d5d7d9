import QueryGate.Database.Service

/-!
# The health service

The health service probes the database and reports the outcome. The general report is degraded
when the probe fails; the report on the database says why it failed. Reports work without a
database service as well.

The host should be a text, the port an integer and the policy on writes a boolean, but any values
are shown and handed on.
-/

namespace QueryGate

open QueryGate.Number QueryGate.Calendar QueryGate.Text

/-- The health service: where it listens, the policy on writes if it is known, and when it was
started. -/
structure Health where
  host : Value := .text "0.0.0.0"
  port : Value := .int 8080
  allowWrites : Value := .null
  started : DateTime

namespace Health

def version : String := "0.1.0"

/-- An action of the health service; its state is the database service, if there is one. -/
abbrev Action := Act (Option Service)

def log {σ : Type} (level : Log.Level) (message : RawText) : Act σ Unit :=
  Act.note level Log.Channel.health message

def onService {α : Type} (service : Service) (act : Service.Action α) : Action α :=
  Act.onPart service (fun service _ => some service) act

/-- The database can be reached. Why it cannot is logged. -/
def databaseReached : Action Bool := do
  match ← Act.self with
  | none => return false
  | some service =>
      Act.recover
        (do
          onService service Service.probe
          return true)
        fun fault =>
          if fault.isException then do
            log .warning ("Database health probe failed: " ++ fault.message)
            return false
          else throw fault

def seconds (span : Duration) : Double :=
  Double.ofRatio (span.microseconds < 0) span.microseconds.natAbs 1000000

def report (health : Health) : Action Entries :=
  Act.recover
    (do
      let uptime := seconds (DateTime.elapsed health.started (← Act.readNow))
      let reached ← databaseReached
      let time ← Act.readNow
      return [
        ("status", .text (if reached then "healthy" else "degraded")),
        ("timestamp", .text (time.iso "T")),
        ("uptime_seconds", .float uptime),
        ("version", .text version),
        ("write_operations_enabled", health.allowWrites)])
    fun fault =>
      if fault.isException then do
        log .error ("Health check error: " ++ fault.message)
        throw (.unavailable 503 fault.message.escaped)
      else throw fault

def poolStatus : Action Value := do
  return .object (((← Act.self).map (·.status)).getD [])

def noDatabase : Entries :=
  [("status", .text "unavailable"), ("message", .text "Database service not configured")]

def databaseReport : Action Entries := do
  match ← Act.self with
  | none => return noDatabase
  | some service =>
      Act.recover
        (do
          onService service Service.probe
          let pool ← poolStatus
          let time ← Act.readNow
          return [
            ("status", .text "healthy"), ("connection_pool", pool),
            ("timestamp", .text (time.iso "T"))])
        fun fault =>
          if fault.isException then do
            log .error ("Database health check error: " ++ fault.message)
            let pool ← poolStatus
            let time ← Act.readNow
            return [
              ("status", .text "unhealthy"), ("error", .text fault.message.escaped),
              ("connection_pool", pool), ("timestamp", .text (time.iso "T"))]
          else throw fault

/-- Listen for requests until the program ends. -/
def listen {σ : Type} (health : Health) : Act σ Unit := do
  log .info
    ("Health API listening on http://" ++ health.host.display ++ ":" ++ health.port.display ++
      "/health")
  Act.serveHealth [("host", health.host), ("port", health.port), ("log_level", .text "warning")]

end Health

end QueryGate
