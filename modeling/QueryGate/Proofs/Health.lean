import QueryGate.Health
import QueryGate.Proofs.Database.Probing
import QueryGate.Proofs.Server.StartUp

/-!
# The reports of health

Both reports probe the database once and then read the calendar clock. Each is answered whatever
the probe met, and what it says of the database is what the probe found. From one state of the
service under one script the two find the same and leave the service in the same state.
-/

namespace QueryGate.Health

open QueryGate.Number QueryGate.Calendar

/-- The stage that a probe of the service leaves, after these calls and with this outcome. -/
structure LeftBy (service : Service) (world : World) (events : List Event) (reached : Bool)
    (stage : Stage (Option Service)) : Prop where
  service : stage.self = some { service with connected := reached }
  journal : stage.world.journal = world.journal ++ events
  now : stage.world.script.now = world.script.now

variable {service : Service} {world : World} {events : List Event} {reached : Bool}

/-- What is sent to the log does not show. -/
theorem LeftBy.logged {stage : Stage (Option Service)}
    (h : LeftBy service world events reached stage) (level : Log.Level) (message : Text.RawText) :
    ∃ after, (log level message : Action Unit).start stage = (.ok (), after) ∧
      LeftBy service world events reached after :=
  ⟨_, rfl, h.service, h.journal, h.now⟩

/-- A report that has probed the database only reads the clock and answers. -/
theorem LeftBy.answered {stage : Stage (Option Service)}
    (h : LeftBy service world events reached stage) (hclock : world.script.ShowsTime)
    (answer : DateTime → Entries) :
    ∃ time after, (do return answer (← Act.readNow) : Action Entries).start stage =
        (.ok (answer time), after) ∧
      after.self = some { service with connected := reached } ∧
      after.world.journal = world.journal ++ events := by
  have hshows : stage.world.script.ShowsTime := by
    rw [Script.ShowsTime, h.now]
    exact hclock
  obtain ⟨time, hread⟩ := Act.start_readNow hshows
  refine ⟨time, stage.withNow stage.world.script.now.tail, ?_, h.service, h.journal⟩
  rw [Act.start_bind, hread]
  rfl

/-- A probe on behalf of a report. -/
theorem start_onService_probe (h : Service.ProbedFrom ⟨service, world⟩ events reached) :
    ∃ result after, (onService service Service.probe).start ⟨some service, world⟩ =
        (result, after) ∧
      LeftBy service world events reached after ∧ (result = .ok () ↔ reached = true) ∧
      (reached = false → ∃ fault, result = .error fault ∧ Service.Unreached fault) := by
  have hnow := Service.probe_timeless.now_eq ⟨service, world⟩
  rw [onService, Act.start_onPart]
  exact ⟨_, _, rfl, ⟨congrArg some h.noted, h.journal, hnow⟩, h.returns_iff, h.fails⟩

theorem databaseReached_tells (h : Service.ProbedFrom ⟨service, world⟩ events reached) :
    ∃ after, databaseReached.start ⟨some service, world⟩ = (.ok reached, after) ∧
      LeftBy service world events reached after := by
  obtain ⟨result, mid, hprobe, hleft, hreturns, hfails⟩ := start_onService_probe h
  cases reached with
  | true =>
    obtain rfl := hreturns.mpr rfl
    exact ⟨mid, Act.start_recover_ok (Act.start_bind_ok hprobe _) _, hleft⟩
  | false =>
    obtain ⟨fault, rfl, hunreached⟩ := hfails rfl
    obtain ⟨after, hlog, hlogged⟩ := hleft.logged .warning
      ("Database health probe failed: " ++ fault.message)
    refine ⟨after, (Act.start_recover_error (Act.start_bind_error hprobe _) _).trans ?_, hlogged⟩
    rw [if_pos hunreached.isException]
    exact Act.start_bind_ok hlog _

/-- The general report says whether the database was reached. -/
def answer (health : Health) (uptime : Double) (reached : Bool) (time : DateTime) : Entries :=
  [("status", .text (if reached then "healthy" else "degraded")),
    ("timestamp", .text (time.iso "T")), ("uptime_seconds", .float uptime),
    ("version", .text version), ("write_operations_enabled", health.allowWrites)]

theorem report_tells (health : Health) (hclock : world.script.ShowsTime)
    (h : Service.ProbedFrom ⟨service, world⟩ events reached) :
    ∃ uptime time after,
      health.report.start ⟨some service, world⟩ = (.ok (health.answer uptime reached time), after) ∧
        after.self = some { service with connected := reached } ∧
        after.world.journal = world.journal ++ events := by
  have hrest : (world.withNow world.script.now.tail).script.ShowsTime := AllowedReplies.tail hclock
  obtain ⟨began, hbegan⟩ : ∃ began, Act.readNow.start ⟨some service, world⟩ =
      (.ok began, ⟨some service, world.withNow world.script.now.tail⟩) := Act.start_readNow hclock
  obtain ⟨mid, hreached, hleft⟩ := databaseReached_tells (h.withNow world.script.now.tail)
  let uptime := seconds (DateTime.elapsed health.started began)
  obtain ⟨time, after, hanswer, hend⟩ := hleft.answered hrest (health.answer uptime reached)
  refine ⟨uptime, time, after, Act.start_recover_ok ?_ _, hend⟩
  rw [Act.start_bind_ok hbegan]
  exact (Act.start_bind_ok hreached _).trans hanswer

/-- The report on the database says why the database was not reached. -/
def databaseAnswer (service : Service) (reached : Bool) (time : DateTime) : Entries :=
  let pool := .object [("connected", .bool reached), ("pool_size", .int service.poolSize)]
  if reached then
    [("status", .text "healthy"), ("connection_pool", pool), ("timestamp", .text (time.iso "T"))]
  else
    [("status", .text "unhealthy"), ("error", .text "Failed to connect to database"),
      ("connection_pool", pool), ("timestamp", .text (time.iso "T"))]

/-- The pool is shown as the probe left it. -/
theorem LeftBy.start_poolStatus {stage : Stage (Option Service)}
    (h : LeftBy service world events reached stage) : poolStatus.start stage =
      (.ok (.object [("connected", .bool reached), ("pool_size", .int service.poolSize)]),
        stage) := by
  rw [poolStatus, Act.start_bind, Act.start_self, h.service]
  rfl

theorem databaseReport_tells (hclock : world.script.ShowsTime)
    (h : Service.ProbedFrom ⟨service, world⟩ events reached) :
    ∃ time after, databaseReport.start ⟨some service, world⟩ =
        (.ok (databaseAnswer service reached time), after) ∧
      after.self = some { service with connected := reached } ∧
      after.world.journal = world.journal ++ events := by
  obtain ⟨result, mid, hprobe, hleft, hreturns, hfails⟩ := start_onService_probe h
  cases reached with
  | true =>
    obtain rfl := hreturns.mpr rfl
    obtain ⟨time, after, hanswer, hend⟩ := hleft.answered hclock (databaseAnswer service true)
    refine ⟨time, after, Act.start_recover_ok ((Act.start_bind_ok hprobe _).trans ?_) _, hend⟩
    exact (Act.start_bind_ok hleft.start_poolStatus _).trans hanswer
  | false =>
    obtain ⟨fault, rfl, hunreached⟩ := hfails rfl
    obtain ⟨logged, hlog, hlogged⟩ := hleft.logged .error
      ("Database health check error: " ++ fault.message)
    obtain ⟨time, after, hanswer, hend⟩ := hlogged.answered hclock (databaseAnswer service false)
    refine ⟨time, after, (Act.start_recover_error (Act.start_bind_error hprobe _) _).trans ?_, hend⟩
    rw [if_pos hunreached.isException, Act.start_bind_ok hlog,
      Act.start_bind_ok hlogged.start_poolStatus, hunreached.message, Text.RawText.escaped_ofString]
    exact hanswer

/-- What a probe of the service and the two reports tell, each from the same state of the service
under the same script: the reports are answered, and they agree with the probe. -/
structure Tells (health : Health) (service : Service) (world : World) (events : List Event)
    (reached : Bool) : Prop where
  probe : Service.ProbedFrom ⟨service, world⟩ events reached
  report : ∃ uptime time,
    (health.report.start ⟨some service, world⟩).1 = .ok (health.answer uptime reached time)
  databaseReport : ∃ time,
    (databaseReport.start ⟨some service, world⟩).1 = .ok (databaseAnswer service reached time)
  left : ∀ act ∈ [health.report, Health.databaseReport],
    (act.start ⟨some service, world⟩).2.self = some { service with connected := reached } ∧
      (act.start ⟨some service, world⟩).2.world.journal = world.journal ++ events

/-- In every state of the service, under every script in which the calls of a probe succeed or raise
errors of the driver and the clock can be read, both reports tell what the probe tells. -/
theorem reports_truthful (health : Health) (service : Service) (world : World)
    (hdriver : world.script.FromDriver) (hclock : world.script.ShowsTime) :
    ∃ events reached, Tells health service world events reached := by
  obtain ⟨events, reached, hprobe⟩ := Service.probedFrom ⟨service, world⟩ hdriver
  obtain ⟨uptime, time, after, hreport, hleft⟩ := report_tells health hclock hprobe
  obtain ⟨time', after', hreport', hleft'⟩ := databaseReport_tells hclock hprobe
  refine ⟨events, reached, hprobe, ⟨uptime, time, by rw [hreport]⟩, ⟨time', by rw [hreport']⟩, ?_⟩
  simp only [List.forall_mem_cons, hreport, hreport']
  exact ⟨hleft, hleft', by simp⟩

/-- A world where a connection cannot be given back. -/
def unreturnedWorld : World :=
  { script := { giveBack := [some (.error (.driver ⟨.operational, "lost\n", none, none⟩))] } }

/-- A connection that is lost behind the statement of the probe is noted and reported. -/
theorem reports_truthful_unreturned :
    unreturnedWorld.script.FromDriver ∧ unreturnedWorld.script.ShowsTime ∧
      ∃ events, Tells { started := DateTime.ofEpochMillis 0 }
        ⟨localSettings, some 0, true⟩ unreturnedWorld events false := by
  have hdriver : unreturnedWorld.script.FromDriver := {
    checkOut := .nil
    giveBack := fun fault hmem => by
      cases List.mem_singleton.mp hmem
      exact ⟨_, rfl⟩
    openCursor := .nil
    execute := .nil
    fetchOne := .nil
    rollback := .nil }
  have hclock : unreturnedWorld.script.ShowsTime := AllowedReplies.nil
  obtain ⟨events, reached, htells⟩ := reports_truthful { started := DateTime.ofEpochMillis 0 }
    ⟨localSettings, some 0, true⟩ unreturnedWorld hdriver hclock
  have hfailed : (Service.probe.start ⟨⟨localSettings, some 0, true⟩, unreturnedWorld⟩).1 =
      .error (.service (.database "Failed to connect to database" none (some "lost"))) := rfl
  obtain rfl : reached = false := by
    rw [← Bool.not_eq_true, ← htells.probe.returns_iff, hfailed]
    exact nofun
  exact ⟨hdriver, hclock, events, htells⟩

end QueryGate.Health
