import QueryGate.Proofs.Database.Calls

/-!
# The calls of a query

A query makes its calls on one connection: the statements of its set-up, its text, the commit. An
error of the driver is rolled back. How a query ends depends on the clock only through two
readings, one before its statements and one after the commit.
-/

namespace QueryGate.Service

open Behaviour

/-- The statement that makes a transaction read-only, if it is to be. -/
def permission (readOnly : Bool) : List String := if readOnly then [readOnlyStatement] else []

/-- The statements before the text of a query. -/
def setUp (readOnly : Bool) (timeout : Int) : List String :=
  permission readOnly ++ [timeoutText timeout]

/-- The calls of statements that all succeed. -/
def executed (texts : List String) : List Event := texts.map fun text => ⟨.execute text [], .done⟩

/-- The set-up and the text of a query are executed in turn; if the text has a result, its rows
are fetched. The first failure ends the sequence, and so does a limit that is too large to be
written. -/
inductive RunsStatements (sql : String) (readOnly : Bool) (timeout : Int) (s : Service) :
    List Event → Except Fault (List Value) → Service → Prop where
  | setUpFailed (before : List String) (text : String) (after : List String)
      (hsetUp : setUp readOnly timeout = before ++ text :: after) (fault : Fault) :
      RunsStatements sql readOnly timeout s
        (executed before ++ [⟨.execute text [], .raised fault⟩]) (.error fault) s
  | oversized (hlarge : Number.fits timeout = false) :
      RunsStatements sql readOnly timeout s (executed (permission readOnly)) (.error .oversized) s
  | failed (fault : Fault) :
      RunsStatements sql readOnly timeout s
        (executed (setUp readOnly timeout) ++ [⟨.execute sql [], .raised fault⟩]) (.error fault) s
  | lost (fault : Fault) :
      RunsStatements sql readOnly timeout s
        (executed (setUp readOnly timeout) ++ [⟨.execute sql [], .done⟩, ⟨.hasRows, .raised fault⟩])
        (.error fault) s
  | empty :
      RunsStatements sql readOnly timeout s
        (executed (setUp readOnly timeout) ++
          [⟨.execute sql [], .done⟩, ⟨.hasRows, .answered false⟩]) (.ok []) s
  | unfetched (fault : Fault) :
      RunsStatements sql readOnly timeout s
        (executed (setUp readOnly timeout) ++
          [⟨.execute sql [], .done⟩, ⟨.hasRows, .answered true⟩, ⟨.fetchAll, .raised fault⟩])
        (.error fault) s
  | fetched (rows : List Value) :
      RunsStatements sql readOnly timeout s
        (executed (setUp readOnly timeout) ++
          [⟨.execute sql [], .done⟩, ⟨.hasRows, .answered true⟩, ⟨.fetchAll, .fetched rows⟩])
        (.ok rows) s

private theorem hasRows_shows : (Act.hasRows : Action Bool).Shows (Calls .hasRows .answered) :=
  .perform

private theorem fetchAll_shows :
    (Act.fetchAll : Action (List Value)).Shows (Calls .fetchAll .fetched) := .perform

private theorem fetchRows_shows :
    (do if ← Act.hasRows then Act.fetchAll else return [] : Action (List Value)).Shows
      (Then (Calls .hasRows .answered) fun yes =>
        if yes then Calls .fetchAll .fetched else ends (.ok [])) := by
  refine .bind hasRows_shows ?_
  intro yes
  cases yes with
  | true => exact fetchAll_shows
  | false => exact Act.Shows.pure

section

variable {sql : String} {readOnly : Bool} {timeout : Int}

/-- What is left to do of a query after some statements of its set-up. -/
private def RunsRest (sql : String) (readOnly : Bool) (timeout : Int) (before : List String) :
    Behaviour Service (List Value) := fun s events r s' =>
  RunsStatements sql readOnly timeout s (executed before ++ events) r s'

private theorem runsText_shows (sql : String) (readOnly : Bool) (timeout : Int)
    {rest : Action (List Value)}
    (h : rest.Shows (Then (Calls .hasRows .answered) fun yes =>
      if yes then Calls .fetchAll .fetched else ends (.ok []))) :
    (Act.execute sql >>= fun _ => rest).Shows
      (RunsRest sql readOnly timeout (setUp readOnly timeout)) := by
  refine (Act.Shows.execute.bind fun _ => h).mono ?_
  intro s events r s' hb
  cases hb with
  | stopped first => cases first; exact .failed _
  | continued first next =>
    cases first
    cases next with
    | stopped first => cases first; exact .lost _
    | @continued _ _ yes _ _ _ first next =>
      cases first
      cases yes with
      | true =>
        cases next with
        | returned rows => exact .fetched rows
        | raised fault => exact .unfetched fault
      | false =>
        obtain ⟨rfl, rfl, rfl⟩ := next
        exact .empty

private theorem runsSetUp_shows (before after : List String) {text : String}
    (hsetUp : setUp readOnly timeout = before ++ text :: after) {rest : Action (List Value)}
    (h : rest.Shows (RunsRest sql readOnly timeout (before ++ [text]))) :
    (Act.execute text >>= fun _ => rest).Shows (RunsRest sql readOnly timeout before) := by
  refine (Act.Shows.execute.bind fun _ => h).mono ?_
  intro s events r s' hb
  cases hb with
  | stopped first => cases first; exact .setUpFailed before text after hsetUp _
  | continued first next =>
    cases first
    simpa [RunsRest, executed, Act.finished] using next

/-- The limit of the time is the last statement of the set-up. -/
private theorem runsTimeout_shows {rest : Action (List Value)}
    (h : rest.Shows (RunsRest sql readOnly timeout (setUp readOnly timeout))) :
    (Act.ofExcept (timeoutStatement timeout) >>= fun text =>
      Act.execute text >>= fun _ => rest).Shows
      (RunsRest sql readOnly timeout (permission readOnly)) := by
  unfold timeoutStatement
  cases hfits : Number.fits timeout with
  | true => exact runsSetUp_shows (permission readOnly) [] rfl h
  | false =>
    refine Act.Shows.throw.mono ?_
    rintro s events r s' ⟨rfl, rfl, rfl⟩
    simpa [RunsRest] using RunsStatements.oversized hfits

theorem runStatements_shows :
    (runStatements sql readOnly timeout).Shows (RunsStatements sql readOnly timeout) := by
  have htimeout := runsTimeout_shows (runsText_shows sql readOnly timeout fetchRows_shows)
  unfold runStatements
  cases readOnly with
  | true => exact runsSetUp_shows [] [timeoutText timeout] rfl htimeout
  | false => exact htimeout

end

/-- The statements of a query and its commit, between two readings of the clock. After the commit
a reading of the clock may still fail, and a row may have no columns. -/
inductive AttemptsQuery (sql : String) (readOnly : Bool) (timeout : Int) (s : Service) :
    List Event → Except Fault (List Entries) → Service → Prop where
  | untimed (fault : Fault) : AttemptsQuery sql readOnly timeout s [] (.error fault) s
  | stopped {events : List Event} {fault : Fault} {s' : Service}
      (run : UsesCursor true (RunsStatements sql readOnly timeout) s events (.error fault) s') :
      AttemptsQuery sql readOnly timeout s events (.error fault) s'
  | uncommitted {events : List Event} {rows : List Value} {s' : Service}
      (run : UsesCursor true (RunsStatements sql readOnly timeout) s events (.ok rows) s')
      (fault : Fault) :
      AttemptsQuery sql readOnly timeout s (events ++ [⟨.commit, .raised fault⟩]) (.error fault) s'
  | committed {events : List Event} {rows : List Value} {r : Except Fault (List Entries)}
      {s' : Service}
      (run : UsesCursor true (RunsStatements sql readOnly timeout) s events (.ok rows) s')
      (hrows : ∀ entries, r = .ok entries → rows.mapM Entries.ofValue = .ok entries) :
      AttemptsQuery sql readOnly timeout s (events ++ [⟨.commit, .done⟩]) r s'

/-- A query is rolled back exactly if its attempt ends with an error of the driver, which is then
reported as an error of the service. -/
inductive RunsQuery (sql : String) (readOnly : Bool) (timeout : Int) (s : Service) :
    List Event → Except Fault (List Entries) → Service → Prop where
  | settled {events : List Event} {r : Except Fault (List Entries)} {s' : Service}
      (attempt : AttemptsQuery sql readOnly timeout s events r s')
      (hr : ∀ error, r ≠ .error (.driver error)) : RunsQuery sql readOnly timeout s events r s'
  | rolledBack {events : List Event} {error : DriverError} {s' : Service}
      (attempt : AttemptsQuery sql readOnly timeout s events (.error (.driver error)) s') :
      RunsQuery sql readOnly timeout s (events ++ [⟨.rollback, .done⟩])
        (.error (.service (queryError error))) s'
  | stuck {events : List Event} {error : DriverError} {s' : Service}
      (attempt : AttemptsQuery sql readOnly timeout s events (.error (.driver error)) s')
      (fault : Fault) :
      RunsQuery sql readOnly timeout s (events ++ [⟨.rollback, .raised fault⟩]) (.error fault) s'

/-- How an attempt ends after its commit: with the second reading of the clock and the rows. -/
def settled (finish : Except Fault Number.Double) (rows : List Value) :
    Except Fault (List Entries) := do
  let _ ← finish
  rows.mapM Entries.ofValue

/-- An attempt at given readings of the clock, one before the statements and one after the
commit. -/
inductive AttemptsAt (start finish : Except Fault Number.Double) (sql : String) (readOnly : Bool)
    (timeout : Int) (s : Service) : List Event → Except Fault (List Entries) → Service → Prop where
  | untimed {fault : Fault} (hstart : start = .error fault) :
      AttemptsAt start finish sql readOnly timeout s [] (.error fault) s
  | stopped {events : List Event} {fault : Fault} {s' : Service}
      (run : UsesCursor true (RunsStatements sql readOnly timeout) s events (.error fault) s') :
      AttemptsAt start finish sql readOnly timeout s events (.error fault) s'
  | uncommitted {events : List Event} {rows : List Value} {s' : Service}
      (run : UsesCursor true (RunsStatements sql readOnly timeout) s events (.ok rows) s')
      (fault : Fault) :
      AttemptsAt start finish sql readOnly timeout s (events ++ [⟨.commit, .raised fault⟩])
        (.error fault) s'
  | committed {events : List Event} {rows : List Value} {s' : Service}
      (run : UsesCursor true (RunsStatements sql readOnly timeout) s events (.ok rows) s') :
      AttemptsAt start finish sql readOnly timeout s (events ++ [⟨.commit, .done⟩])
        (settled finish rows) s'

/-- The report of a fault of a query: errors of the driver are rolled back. -/
def queryReport : Fault → Option Fault
  | .driver error => some (.service (queryError error))
  | _ => none

/-- The calls of a query on its connection, at given readings of the clock. -/
def RunsQueryAt (start finish : Except Fault Number.Double) (sql : String) (readOnly : Bool)
    (timeout : Int) : Behaviour Service (List Entries) :=
  Reverts queryReport (AttemptsAt start finish sql readOnly timeout)

section

variable {sql : String} {readOnly : Bool} {timeout : Int}
  {start finish : Except Fault Number.Double} {s s' : Service} {events : List Event}
  {r : Except Fault (List Entries)}

theorem settled_eq_ok_iff {rows : List Value} {entries : List Entries} :
    settled finish rows = .ok entries ↔
      (∃ reading, finish = .ok reading) ∧ rows.mapM Entries.ofValue = .ok entries := by
  cases finish with
  | error fault => simp [settled, bind, Except.bind]
  | ok reading => simp [settled, bind, Except.bind]

theorem AttemptsAt.attempts (h : AttemptsAt start finish sql readOnly timeout s events r s') :
    AttemptsQuery sql readOnly timeout s events r s' := by
  cases h with
  | untimed hstart => exact .untimed _
  | stopped run => exact .stopped run
  | uncommitted run fault => exact .uncommitted run fault
  | committed run => exact .committed run fun entries h => (settled_eq_ok_iff.mp h).2

theorem RunsQueryAt.runs (h : RunsQueryAt start finish sql readOnly timeout s events r s') :
    RunsQuery sql readOnly timeout s events r s' := by
  cases h with
  | settled run hr =>
    refine .settled run.attempts ?_
    rintro error rfl
    cases hr _ rfl
  | @rolledBack events fault reported _ run hreport =>
    cases fault with
    | driver error => cases hreport; exact .rolledBack run.attempts
    | _ => cases hreport
  | @stuck events fault reported _ run hreport failure =>
    cases fault with
    | driver error => exact .stuck run.attempts failure
    | _ => cases hreport

theorem logQueryError_shows {error : DriverError} :
    (logQueryError error).Shows (ends (.ok ())) := by
  unfold logQueryError
  split
  · exact .pure
  · exact log_shows
  · exact log_shows

private theorem logQueryError_keepsClock {error : DriverError} :
    (logQueryError error).KeepsStage Stage.clock := by
  unfold logQueryError
  split
  · exact .pure
  · exact .send_clock
  · exact .send_clock

private theorem runStatements_keepsClock :
    (runStatements sql readOnly timeout).KeepsStage Stage.clock := by
  have hrows : (Act.hasRows : Action Bool).KeepsStage Stage.clock := .perform_clock fun _ _ => rfl
  have hfetch : (Act.fetchAll : Action (List Value)).KeepsStage Stage.clock :=
    .perform_clock fun _ _ => rfl
  have hexecute (text : String) : (Act.execute text : Action Unit).KeepsStage Stage.clock :=
    .execute_clock
  have hread := hrows.bind fun yes =>
    Act.KeepsStage.ite (c := yes = true) hfetch (Act.KeepsStage.pure (a := []))
  have hlimit : (Act.ofExcept (timeoutStatement timeout) : Action String).KeepsStage Stage.clock :=
    .ofExcept
  have htext := hlimit.bind fun text =>
    (hexecute text).bind fun _ => (hexecute sql).bind fun _ => hread
  unfold runStatements
  cases readOnly with
  | true => exact .bind .execute_clock fun _ => htext
  | false => exact htext

/-- After the commit nothing is called any more. -/
private theorem settles_timed {rows : List Value} {begun : Number.Double} :
    (do
      let ended ← Act.readClock
      logWith .info "Query executed successfully"
        [("row_count", .int rows.length),
         ("duration", .text (Number.wholeText (elapsedMillis begun ended) ++ "ms"))]
      entriesOfRows rows : Action (List Entries)).ShowsBy Stage.timed fun s events r s' =>
        events = [] ∧ r = settled (s.2 0) rows ∧ s' = (s.1, s.2.after 1) := by
  refine (Act.ShowsBy.readClock.bind fun _ => .bind_ends .send_timed .ofExcept).mono ?_
  rintro ⟨s, readings⟩ events r s' hb
  cases hb with
  | stopped first =>
    obtain ⟨rfl, hreading, rfl⟩ := first
    refine ⟨rfl, ?_, rfl⟩
    rw [← hreading]
    rfl
  | continued first next =>
    obtain ⟨rfl, hreading, rfl⟩ := first
    obtain ⟨rfl, rfl, rfl⟩ := next
    refine ⟨rfl, ?_, rfl⟩
    rw [← hreading]
    rfl

private theorem attemptsQuery_timed {settle : Number.Double → List Value → Action (List Entries)}
    (hsettle : ∀ begun rows, (settle begun rows).ShowsBy Stage.timed fun s events r s' =>
      events = [] ∧ r = settled (s.2 0) rows ∧ s' = (s.1, s.2.after 1)) :
    (do
      let begun ← Act.readClock
      let rows ← withCursor true (runStatements sql readOnly timeout)
      Act.commit
      settle begun rows : Action (List Entries)).ShowsBy Stage.timed fun s events r s' =>
        AttemptsAt (s.2 0) (s.2 1) sql readOnly timeout s.1 events r s'.1 ∧
          ∀ entries, r = .ok entries → s'.2 = s.2.after 2 := by
  have hstatements : (runStatements sql readOnly timeout).Shows _ := runStatements_shows
  have hcursor : (withCursor true (runStatements sql readOnly timeout)).ShowsBy Stage.timed _ :=
    (withCursor_shows hstatements).timed (withCursor_keepsClock runStatements_keepsClock)
  have hcommit : (Act.commit : Action Unit).ShowsBy Stage.timed (Calls .commit Act.finished) :=
    .perform_timed fun _ _ => rfl
  refine (Act.ShowsBy.readClock.bind fun begun => hcursor.bind fun rows =>
    hcommit.bind fun _ => hsettle begun rows).mono ?_
  rintro ⟨s, readings⟩ events r ⟨s', readings'⟩ hb
  cases hb with
  | stopped clock =>
    obtain ⟨rfl, hstart, hs'⟩ := clock
    cases hs'
    exact ⟨.untimed hstart.symm, by simp⟩
  | continued clock next =>
    obtain ⟨rfl, hstart, rfl⟩ := clock
    cases next with
    | stopped run =>
      exact ⟨.stopped run.1, by simp⟩
    | continued run next =>
      obtain ⟨run, hreadings⟩ := run
      cases next with
      | stopped commit =>
        cases commit
        exact ⟨.uncommitted run _, by simp⟩
      | continued commit next =>
        cases commit
        obtain ⟨rfl, rfl, hs'⟩ := next
        cases hs'
        dsimp only at hreadings
        rw [hreadings]
        exact ⟨.committed run, fun _ _ => by simp⟩

private theorem reportQueryFault_timed {fault : Fault} :
    (reportQueryFault fault : Action (List Entries)).ShowsBy Stage.timed
      (reverting queryReport fault) := by
  cases fault with
  | driver error =>
    have hrollback : (Act.rollback : Action Unit).ShowsBy Stage.timed
        (Calls .rollback Act.finished) := .perform_timed fun _ _ => rfl
    have hlog : (logQueryError error).ShowsBy Stage.timed (ends (.ok ())) :=
      logQueryError_shows.timed_ends logQueryError_keepsClock
    exact hrollback.bind fun _ => .bind_ends hlog .throw
  | _ => exact .throw

/-- A query takes two readings of the clock. -/
theorem query_timed : (query sql readOnly).ShowsBy Stage.timed fun s events r s' =>
    Connects (RunsQueryAt (s.2 0) (s.2 1) sql readOnly s.1.settings.statementTimeout)
      s.1 events r s'.1 ∧ ∀ entries, r = .ok entries → s'.2 = s.2.after 2 := by
  refine .bind_ends .send_timed (.bind_self_timed fun s₀ => ?_)
  refine (withConnection_timed ((Act.ShowsBy.recover (attemptsQuery_timed fun begun rows =>
    settles_timed) fun _ => reportQueryFault_timed).mono fun _ _ _ _ => reverts_of_handles)).mono ?_
  rintro ⟨s, readings⟩ events r ⟨s', readings'⟩ hb rfl
  refine ⟨hb.mono fun _ _ _ _ run => Reverts.mono (fun _ _ attempt => attempt.1) run, ?_⟩
  rintro entries rfl
  cases hb with
  | used hpool run =>
    cases run with
    | settled attempt hr => exact attempt.2 entries rfl

theorem query_shows : (query sql readOnly).Shows fun s =>
    Connects (RunsQuery sql readOnly s.settings.statementTimeout) s :=
  Act.shows_iff_showsBy_timed.mpr (query_timed.mono fun _ _ _ _ h =>
    h.1.mono fun _ _ _ _ run => RunsQueryAt.runs run)

end

end QueryGate.Service
