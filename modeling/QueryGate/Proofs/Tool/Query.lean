import QueryGate.Proofs.Database.Query
import QueryGate.Proofs.Gate.Report
import QueryGate.Tool

/-!
# The calls of the query tool

A query that the gate refuses makes no calls. An accepted query makes the calls of the service's
query, between two readings of the clock, and none after it.
-/

namespace QueryGate.Tool

open QueryGate.Number QueryGate.Payload QueryGate.Validation Behaviour

/-- A fault of a query as the tool reports it: every exception is an error of the service. -/
def reportedFault : Fault → Fault
  | .service error => .service error
  | fault =>
      if fault.isException then
        .service (.general ("Query execution failed: " ++ fault.message) true)
      else fault

/-- A query of the service between two readings of the clock. -/
inductive TimesQuery (sql : String) (readOnly : Bool) (s : Service) :
    List Event → Except Fault (List Entries × Double) → Service → Prop where
  | untimed (fault : Fault) : TimesQuery sql readOnly s [] (.error (reportedFault fault)) s
  | failed {events : List Event} {fault : Fault} {s' : Service}
      (run : Service.Connects (Service.RunsQuery sql readOnly s.settings.statementTimeout) s events
        (.error fault) s') :
      TimesQuery sql readOnly s events (.error (reportedFault fault)) s'
  | unmeasured {events : List Event} {rows : List Entries} {s' : Service}
      (run : Service.Connects (Service.RunsQuery sql readOnly s.settings.statementTimeout) s events
        (.ok rows) s') (fault : Fault) :
      TimesQuery sql readOnly s events (.error (reportedFault fault)) s'
  | timed {events : List Event} {rows : List Entries} {s' : Service}
      (run : Service.Connects (Service.RunsQuery sql readOnly s.settings.statementTimeout) s events
        (.ok rows) s') (start finish : Double) :
      TimesQuery sql readOnly s events (.ok (rows, Service.elapsedMillis start finish)) s'

/-- The same at given readings of the clock. The service takes its own two in between. -/
inductive TimesQueryAt (readings : Readings) (sql : String) (readOnly : Bool) (s : Service) :
    List Event → Except Fault (List Entries × Double) → Service → Prop where
  | untimed {fault : Fault} (hstart : readings 0 = .error fault) :
      TimesQueryAt readings sql readOnly s [] (.error (reportedFault fault)) s
  | failed {events : List Event} {fault : Fault} {s' : Service}
      (run : Service.Connects (Service.RunsQueryAt (readings 1) (readings 2) sql readOnly
        s.settings.statementTimeout) s events (.error fault) s') :
      TimesQueryAt readings sql readOnly s events (.error (reportedFault fault)) s'
  | unmeasured {events : List Event} {rows : List Entries} {fault : Fault} {s' : Service}
      (run : Service.Connects (Service.RunsQueryAt (readings 1) (readings 2) sql readOnly
        s.settings.statementTimeout) s events (.ok rows) s') (hfinish : readings 3 = .error fault) :
      TimesQueryAt readings sql readOnly s events (.error (reportedFault fault)) s'
  | timed {events : List Event} {rows : List Entries} {start finish : Double} {s' : Service}
      (run : Service.Connects (Service.RunsQueryAt (readings 1) (readings 2) sql readOnly
        s.settings.statementTimeout) s events (.ok rows) s')
      (hstart : readings 0 = .ok start) (hfinish : readings 3 = .ok finish) :
      TimesQueryAt readings sql readOnly s events
        (.ok (rows, Service.elapsedMillis start finish)) s'

variable {sql : String} {readOnly : Bool}

theorem TimesQueryAt.times {readings : Readings} {s s' : Service} {events : List Event}
    {r : Except Fault (List Entries × Double)}
    (h : TimesQueryAt readings sql readOnly s events r s') :
    TimesQuery sql readOnly s events r s' := by
  have hruns {r : Except Fault (List Entries)}
      (run : Service.Connects (Service.RunsQueryAt (readings 1) (readings 2) sql readOnly
        s.settings.statementTimeout) s events r s') :
      Service.Connects (Service.RunsQuery sql readOnly s.settings.statementTimeout) s events r s' :=
    run.mono fun _ _ _ _ => Service.RunsQueryAt.runs
  cases h with
  | untimed hstart => exact .untimed _
  | failed run => exact .failed (hruns run)
  | unmeasured run hfinish => exact .unmeasured (hruns run) _
  | timed run hstart hfinish => exact .timed (hruns run) _ _

theorem reportFault_shows {α : Type} {fault : Fault} :
    (reportFault fault : Service.Action α).Shows (ends (.error (reportedFault fault))) := by
  cases fault with
  | service error => exact .throw
  | interrupt message => exact .throw
  | exit code => exact .throw
  | _ => exact .bind_ends .send .throw

theorem reportFault_keepsClock {α : Type} {fault : Fault} :
    (reportFault fault : Service.Action α).KeepsStage Stage.clock := by
  cases fault with
  | service error => exact .throw
  | interrupt message => exact .throw
  | exit code => exact .throw
  | _ => exact .bind .send_clock fun _ => .throw

/-- The tool takes the first and the last of four readings. -/
theorem timedQuery_timed : (timedQuery sql readOnly).ShowsBy Stage.timed fun s events r s' =>
    TimesQueryAt s.2 sql readOnly s.1 events r s'.1 := by
  have hreport (fault : Fault) :
      (reportFault fault : Service.Action (List Entries × Double)).ShowsBy Stage.timed
        (ends (.error (reportedFault fault))) := reportFault_shows.timed_ends reportFault_keepsClock
  refine (Act.ShowsBy.recover (.bind .readClock fun start => Service.query_timed.bind fun rows =>
    .bind .readClock fun finish => .pure) hreport).mono ?_
  rintro ⟨s, readings⟩ events r ⟨s', readings'⟩ hb
  cases hb with
  | passed first =>
    cases first with
    | continued clock next =>
      obtain ⟨rfl, hstart, rfl⟩ := clock
      cases next with
      | continued run next =>
        obtain ⟨run, hreadings⟩ := run
        cases next with
        | continued clock next =>
          obtain ⟨rfl, hfinish, rfl⟩ := clock
          obtain ⟨rfl, hpair, hs'⟩ := next
          cases hpair
          cases hs'
          rw [hreadings _ rfl] at hfinish
          simpa using TimesQueryAt.timed run hstart.symm hfinish.symm
  | handled first next =>
    obtain ⟨rfl, rfl, hs'⟩ := next
    cases hs'
    rw [List.append_nil]
    cases first with
    | stopped clock =>
      obtain ⟨rfl, hstart, hs'⟩ := clock
      cases hs'
      exact .untimed hstart.symm
    | continued clock next =>
      obtain ⟨rfl, hstart, rfl⟩ := clock
      cases next with
      | stopped run => exact .failed run.1
      | continued run next =>
        obtain ⟨run, hreadings⟩ := run
        cases next with
        | stopped clock =>
          obtain ⟨rfl, hfinish, hs'⟩ := clock
          cases hs'
          rw [hreadings _ rfl] at hfinish
          simpa using TimesQueryAt.unmeasured run hfinish.symm
        | continued clock next => cases next.2.1

def answer (rows : List Entries) (milliseconds : Double) : Except Fault QueryResult :=
  match (queryResult rows milliseconds).toExcept "QueryResponse" with
  | .ok result => .ok result
  | .error data => .error (.invalidData data)

/-- A query of the tool: refused without a call, or run, and then answered or failed. -/
inductive AnswersQuery (gate : Gate) (sql : String) (s : Service) :
    List Event → Except Fault QueryResult → Service → Prop where
  | refused {refusal : Refusal} (hrefused : gate.judge sql = .error refusal) :
      AnswersQuery gate sql s [] (.error (.service refusal.error)) s
  | failed {events : List Event} {fault : Fault} {s' : Service}
      (haccepted : gate.judge sql = .ok ())
      (run : TimesQuery sql (!gate.allowWrites) s events (.error fault) s') :
      AnswersQuery gate sql s events (.error fault) s'
  | answered {events : List Event} {rows : List Entries} {milliseconds : Double} {s' : Service}
      (haccepted : gate.judge sql = .ok ())
      (run : TimesQuery sql (!gate.allowWrites) s events (.ok (rows, milliseconds)) s') :
      AnswersQuery gate sql s events (answer rows milliseconds) s'

/-- The same at given readings of the clock. -/
inductive AnswersQueryAt (readings : Readings) (gate : Gate) (sql : String) (s : Service) :
    List Event → Except Fault QueryResult → Service → Prop where
  | refused {refusal : Refusal} (hrefused : gate.judge sql = .error refusal) :
      AnswersQueryAt readings gate sql s [] (.error (.service refusal.error)) s
  | failed {events : List Event} {fault : Fault} {s' : Service}
      (haccepted : gate.judge sql = .ok ())
      (run : TimesQueryAt readings sql (!gate.allowWrites) s events (.error fault) s') :
      AnswersQueryAt readings gate sql s events (.error fault) s'
  | answered {events : List Event} {rows : List Entries} {milliseconds : Double} {s' : Service}
      (haccepted : gate.judge sql = .ok ())
      (run : TimesQueryAt readings sql (!gate.allowWrites) s events
        (.ok (rows, milliseconds)) s') :
      AnswersQueryAt readings gate sql s events (answer rows milliseconds) s'

theorem AnswersQueryAt.answers {readings : Readings} {gate : Gate} {s s' : Service}
    {events : List Event} {r : Except Fault QueryResult}
    (h : AnswersQueryAt readings gate sql s events r s') : AnswersQuery gate sql s events r s' := by
  cases h with
  | refused hrefused => exact .refused hrefused
  | failed haccepted run => exact .failed haccepted run.times
  | answered haccepted run => exact .answered haccepted run.times

private theorem accept_showsBy {τ : Type} {view : Stage Service → τ} {rows : List Entries}
    {milliseconds : Double} :
    (accept "QueryResponse" (queryResult rows milliseconds) : Service.Action QueryResult).ShowsBy
      view (ends (answer rows milliseconds)) := by
  unfold accept answer
  cases (queryResult rows milliseconds).toExcept "QueryResponse" with
  | ok result => exact .pure
  | error data => exact .throw

theorem query_timed {gate : Gate} : (query gate sql).ShowsBy Stage.timed fun s events r s' =>
    AnswersQueryAt s.2 gate sql s.1 events r s'.1 := by
  have hcheck : (gate.check sql : Service.Action Unit).ShowsBy Stage.timed
      (ends (gate.ending sql)) := Gate.check_shows.timed_ends Gate.check_keepsClock
  refine (hcheck.bind fun _ => timedQuery_timed.bind fun _ => accept_showsBy).mono ?_
  rintro s events r s' hb
  cases hb with
  | stopped first =>
    obtain ⟨rfl, hending, rfl⟩ := first
    rw [Gate.ending] at hending
    cases hjudge : gate.judge sql with
    | ok _ => simp [hjudge] at hending
    | error refusal =>
      simp only [hjudge, Except.error.injEq] at hending
      rw [hending]
      exact .refused hjudge
  | continued first next =>
    obtain ⟨rfl, hending, rfl⟩ := first
    have haccepted := Gate.ending_eq_ok_iff.mp hending.symm
    cases next with
    | stopped run => exact .failed haccepted run
    | continued run next =>
      obtain ⟨rfl, rfl, rfl⟩ := next
      simpa using AnswersQueryAt.answered haccepted run

/-- An accepted query makes the calls of its timed part. -/
theorem journal_query {gate : Gate} (haccepted : gate.judge sql = .ok ()) (stage : Stage Service) :
    ((query gate sql).start stage).2.world.journal =
      ((timedQuery sql (!gate.allowWrites)).start ⟨stage.self, { stage.world with
        records := stage.world.records ++ gate.trail sql }⟩).2.world.journal := by
  have haccept (rows : List Entries) (milliseconds : Double) :
      (accept "QueryResponse" (queryResult rows milliseconds) : Service.Action QueryResult).Shows
        (ends (answer rows milliseconds)) := accept_showsBy
  rw [query, Act.start_bind, Gate.start_check, Gate.ending, haccepted]
  exact Act.KeepsStage.start_bind_view (fun timed => .journal_of_ends (haccept _ _)) _

end QueryGate.Tool
