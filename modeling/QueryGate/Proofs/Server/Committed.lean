import QueryGate.Proofs.Database.Statements
import QueryGate.Proofs.Database.Transaction
import QueryGate.Proofs.Server.Answering
import QueryGate.Proofs.Tool.Table

/-!
# Queries and their answers

Once the server is initialised with a gate that allows no writes, a query that is blank or has a
write among its statements makes no call at all, and is answered with the position of the first
write. Every other query passes its text at most once, in a transaction that was made read-only
before, whatever the driver replies.

Behind the commit of a query there are still steps that may fail: the connection is given back,
the clock is read, the rows are read as mappings, the time is checked, and the result is written.
A committed query is answered with its result exactly if all of them succeed. Otherwise it is
answered as a failure, although its effects stay.
-/

namespace QueryGate.Server

open QueryGate.Text QueryGate.Sql QueryGate.Payload Service QueryGate.Number

/-- Neither statement of the set-up is a text that the gate accepts. -/
private theorem notMem_setUp {gate : Gate} {sql : String} (hgate : gate.allowWrites = false)
    (haccepted : gate.judge sql = .ok ()) (timeout : Int) : sql ∉ setUp true timeout := by
  have hset (rest : List Char) : sql.toList ≠ "SET ".toList ++ rest := by
    intro hsql
    obtain ⟨stretch, hstretch, hfails⟩ := exists_not_passes_set rest
    rw [← hsql] at hstretch
    exact hfails (split_reads_iff.mp ((Gate.judge_eq_ok_iff hgate).mp haccepted).2 _ hstretch)
  have hfirst : readOnlyStatement.toList = "SET ".toList ++ "TRANSACTION READ ONLY".toList := by
    decide
  have hword : "SET statement_timeout = ".toList =
      "SET ".toList ++ "statement_timeout = ".toList := by decide
  have hsecond (digits : String) : ("SET statement_timeout = " ++ digits).toList =
      "SET ".toList ++ ("statement_timeout = ".toList ++ digits.toList) := by
    rw [String.toList_append, hword, List.append_assoc]
  intro hmem
  have hsql : sql = readOnlyStatement ∨ sql = timeoutText timeout := by
    simpa [setUp, permission] using hmem
  rcases hsql with hsql | hsql
  · exact hset _ ((congrArg String.toList hsql).trans hfirst)
  · exact hset _ ((congrArg String.toList hsql).trans (hsecond _))

/-- The failure that answers a refused query tells the position of the first write. -/
private theorem refused_answer {gate : Gate} {sql : String} {refusal : Refusal}
    (hrefused : gate.judge sql = .error refusal) :
    ∃ failure document, Failure.document failure = .ok document ∧
      answered (queryPayload (.error (.service refusal.error))) = .ok (text document) ∧
        failure.position =
          if allBlank sql then none else some (((split sql).findIdx isWrite + 1 : Nat) : Int) := by
  have hlegible : (Fault.service refusal.error).Legible := by
    cases refusal <;> exact ⟨_, rfl⟩
  obtain ⟨document, hdocument⟩ := Failure.document_of_legible hlegible
  refine ⟨_, document, hdocument, congrArg payloadOf hdocument, ?_⟩
  rcases Gate.judge_eq_error_cases hrefused with ⟨hblank, rfl⟩ | ⟨hblank, statement, rfl, -⟩
  · rw [hblank]
    rfl
  · rw [hblank, Nat.add_comm]
    rfl

/-- A timed query passes its text behind the set-up, if it gets to it. -/
private theorem timesQuery_passesBehind {sql : String} {s s' : Service} {events : List Event}
    {r : Except Fault (List Entries × Number.Double)}
    (hsql : sql ∉ setUp true s.settings.statementTimeout)
    (h : Tool.TimesQuery sql true s events r s') :
    PassesBehind sql (setUp true s.settings.statementTimeout) s events := by
  cases h with
  | untimed fault => exact .of_silent rfl
  | failed run => exact run.passesBehind hsql
  | unmeasured run fault => exact run.passesBehind hsql
  | timed run start finish => exact run.passesBehind hsql

/-- On a server whose initialisation succeeded with a gate that allows no writes, a refused query
makes no call and is answered with the position of the first write, none if it is blank. Any other
query passes its text at most once, as it is, right behind the two statements that make the
transaction read-only and limit its time. -/
theorem handleQuery_readOnly (sql : String) (stage started : Stage Server) (service : Service)
    (gate : Gate) (hstarted : ensureInitialized.start stage = (.ok (service, gate), started))
    (hgate : gate.allowWrites = false) :
    (started.self.service = some service ∧ started.self.gate = some gate) ∧
      ∃ events,
        ((handleQuery sql).start stage).2.world.journal = started.world.journal ++ events ∧
          ((allBlank sql = true ∨ ∃ statement ∈ split sql, isWrite statement = true) →
            events = [] ∧ ∃ failure document, Failure.document failure = .ok document ∧
              ((handleQuery sql).start stage).1 = .ok (text document) ∧
                failure.position =
                  if allBlank sql then none
                  else some (((split sql).findIdx isWrite + 1 : Nat) : Int)) ∧
          (allBlank sql = false ∧ (∀ statement ∈ split sql, isWrite statement = false) →
            PassesBehind sql
              [readOnlyStatement, timeoutText service.settings.statementTimeout] service
              events) := by
  obtain ⟨events, result, service', hjournal, hanswers, hresult, -⟩ :=
    start_handleQuery sql hstarted
  refine ⟨ensureInitialized_returns hstarted, events, hjournal, ?_⟩
  rw [hresult, ← Gate.judge_ne_ok_iff hgate, ← Gate.judge_eq_ok_iff hgate]
  have hrun {ended : Except Fault (List Entries × Number.Double)}
      (haccepted : gate.judge sql = .ok ())
      (run : Tool.TimesQuery sql (!gate.allowWrites) service events ended service') :
      PassesBehind sql (setUp true service.settings.statementTimeout) service events := by
    rw [hgate] at run
    exact timesQuery_passesBehind (notMem_setUp hgate haccepted _) run
  cases hanswers with
  | refused hrefused =>
    refine ⟨fun _ => ⟨rfl, refused_answer hrefused⟩, fun haccepted => ?_⟩
    rw [hrefused] at haccepted
    cases haccepted
  | failed haccepted run =>
    exact ⟨fun hrefused => absurd haccepted hrefused, fun _ => hrun haccepted run⟩
  | answered haccepted run =>
    exact ⟨fun hrefused => absurd haccepted hrefused, fun _ => hrun haccepted run⟩

/-- A server that has settings without writes, and no service yet. -/
def idleStage : Stage Server :=
  ⟨{ settings := some localSettings }, {}⟩

theorem handleQuery_readOnly_select :
    ∃ events,
      ((handleQuery "SELECT 1").start idleStage).2.world.journal =
          (ensureInitialized.start idleStage).2.world.journal ++ events ∧
        PassesBehind "SELECT 1" [readOnlyStatement, timeoutText 30000]
          ⟨localSettings, some 0, true⟩ events := by
  obtain ⟨-, events, hjournal, -, haccepted⟩ := handleQuery_readOnly "SELECT 1" idleStage
    (ensureInitialized.start idleStage).2 ⟨localSettings, some 0, true⟩ (gateOf localSettings)
    rfl rfl
  exact ⟨events, hjournal, haccepted (by decide)⟩

/-- What has to go well behind the commit, for a result to be the answer. -/
structure Reportable (readings : Readings) (events : List Event) (result : QueryResult) :
    Prop where
  givenBack : ∃ pool, ⟨.giveBack pool, .done⟩ ∈ events
  logged : ∃ reading, readings 2 = .ok reading
  rows : (fetchedRows events).mapM Entries.ofValue = .ok result.rows
  rowCount : result.rowCount = result.rows.length
  timed : ∃ start finish, readings 0 = .ok start ∧ readings 3 = .ok finish ∧
    result.milliseconds = (elapsedMillis start finish).roundTo 2
  notNegative : result.milliseconds.AtLeastZero
  written : ∃ document, result.document = .ok document

/-- The request is answered with a result. -/
def AnsweredBy (r : Except Fault String) (result : QueryResult) : Prop :=
  ∃ document, result.document = .ok document ∧ r = .ok (text document)

/-- The request is answered with a failure, or it is left unanswered: by a failure that cannot be
written, by an interrupt, or by an exit. -/
inductive Failed : Except Fault String → Prop where
  | answered {failure : Failure} {document : Json} (h : failure.document = .ok document) :
      Failed (.ok (text document))
  | unwritten {failure : Failure} {problem : Unwritable} (h : failure.document = .error problem) :
      Failed (.error (.unwritable problem))
  | unanswered {fault : Fault} (h : fault.isException = false) : Failed (.error fault)

section

variable {r : Except Fault String} {result : QueryResult}

theorem Failed.not_answeredBy (h : Failed r) : ¬ AnsweredBy r result := by
  rintro ⟨document, hdocument, hr⟩
  cases h with
  | answered hfailure =>
    exact Tool.text_result_ne_failure hdocument hfailure (Except.ok.inj hr).symm
  | unwritten hfailure => cases hr
  | unanswered h => cases hr

theorem failed_answered (fault : Fault) : Failed (answered (.error fault)) := by
  cases hfault : fault.isException with
  | true =>
    simp only [answered, hfault, if_true]
    cases hdocument : (Failure.ofFault fault).document with
    | ok document => exact .answered hdocument
    | error problem => exact .unwritten hdocument
  | false =>
    simp only [answered, hfault, Bool.false_eq_true, if_false]
    exact .unanswered hfault

theorem answeredBy_answered {document : Json} (h : result.document = .ok document) :
    AnsweredBy (answered (queryPayload (.ok result))) result := by
  refine ⟨document, h, ?_⟩
  simp only [queryPayload, h]
  rfl

end

section

variable {readings : Readings} {sql : String} {readOnly : Bool} {timeout : Int} {s s' : Service}
  {events : List Event} {result : QueryResult}

/-- A query of the service returns exactly if the first steps behind its commit go well. -/
theorem returned_iff {r : Except Fault (List Entries)}
    (run : Connects (RunsQueryAt (readings 1) (readings 2) sql readOnly timeout) s events r s')
    (hcommit : ⟨.commit, .done⟩ ∈ events) (found : List Entries) :
    r = .ok found ↔ (∃ pool, ⟨.giveBack pool, .done⟩ ∈ events) ∧
      (∃ reading, readings 2 = .ok reading) ∧
        (fetchedRows events).mapM Entries.ofValue = .ok found := by
  rw [run.queries.transacts.returns, settled_eq_ok_iff, and_iff_right hcommit]

theorem Reportable.returned {r : Except Fault (List Entries)}
    (h : Reportable readings events result)
    (run : Connects (RunsQueryAt (readings 1) (readings 2) sql readOnly timeout) s events r s')
    (hcommit : ⟨.commit, .done⟩ ∈ events) : r = .ok result.rows :=
  (returned_iff run hcommit _).mpr ⟨h.givenBack, h.logged, h.rows⟩

/-- The steps behind a commit say how the request ends. -/
structure Settles (readings : Readings) (events : List Event) (r : Except Fault String) : Prop where
  reports : ∀ result, Reportable readings events result → AnsweredBy r result
  fails : (¬ ∃ result, Reportable readings events result) → Failed r

theorem Settles.of_failed {r : Except Fault String} (hr : Failed r)
    (h : ∀ result, ¬ Reportable readings events result) : Settles readings events r :=
  ⟨fun result hresult => absurd hresult (h result), fun _ => hr⟩

/-- At most one result can be reported. -/
theorem Reportable.result_eq {rows : List Entries} {start finish : Double}
    (h : Reportable readings events result)
    (run : Connects (RunsQueryAt (readings 1) (readings 2) sql readOnly timeout) s events
      (.ok rows) s')
    (hcommit : ⟨.commit, .done⟩ ∈ events) (hstart : readings 0 = .ok start)
    (hfinish : readings 3 = .ok finish) :
    result = ⟨rows, rows.length, (elapsedMillis start finish).roundTo 2⟩ := by
  have hrows : result.rows = rows := (Except.ok.inj (h.returned run hcommit)).symm
  have hcount := h.rowCount
  obtain ⟨start', finish', hstart', hfinish', htime⟩ := h.timed
  obtain rfl : start' = start := Except.ok.inj (hstart'.symm.trans hstart)
  obtain rfl : finish' = finish := Except.ok.inj (hfinish'.symm.trans hfinish)
  obtain ⟨rows', count, milliseconds⟩ := result
  dsimp only at hrows hcount htime
  rw [hcount, htime, hrows]

theorem settles_of_timed {rows : List Entries} {start finish : Double}
    (run : Connects (RunsQueryAt (readings 1) (readings 2) sql readOnly timeout) s events
      (.ok rows) s')
    (hcommit : ⟨.commit, .done⟩ ∈ events) (hstart : readings 0 = .ok start)
    (hfinish : readings 3 = .ok finish) :
    Settles readings events
      (answered (queryPayload (Tool.answer rows (elapsedMillis start finish)))) := by
  have hsame {result : QueryResult} (h : Reportable readings events result) :
      result = ⟨rows, rows.length, (elapsedMillis start finish).roundTo 2⟩ :=
    h.result_eq run hcommit hstart hfinish
  -- The time is checked first, and a result that passes may still not be written.
  by_cases hle : ((elapsedMillis start finish).roundTo 2).AtLeastZero
  · rw [Tool.answer_of_atLeastZero hle]
    generalize hms : (elapsedMillis start finish).roundTo 2 = milliseconds at hle hsame
    cases hdocument : (⟨rows, rows.length, milliseconds⟩ : QueryResult).document with
    | ok document =>
      obtain ⟨hgiven, hlogged, hread⟩ := (returned_iff run hcommit rows).mp rfl
      have hreportable : Reportable readings events ⟨rows, rows.length, milliseconds⟩ :=
        ⟨hgiven, hlogged, hread, rfl, ⟨start, finish, hstart, hfinish, hms.symm⟩, hle,
          ⟨document, hdocument⟩⟩
      refine ⟨fun result h => ?_, fun hnone => absurd ⟨_, hreportable⟩ hnone⟩
      rw [hsame h]
      exact answeredBy_answered hdocument
    | error failure =>
      refine .of_failed ?_ fun result h => ?_
      · simp only [queryPayload, hdocument]
        exact failed_answered _
      · obtain ⟨document, hwritten⟩ := h.written
        rw [hsame h, hdocument] at hwritten
        cases hwritten
  · obtain ⟨data, hdata⟩ := Tool.answer_of_not_atLeastZero hle
    rw [hdata]
    refine .of_failed (failed_answered _) fun result h => hle ?_
    have hnotNegative := h.notNegative
    rw [hsame h] at hnotNegative
    exact hnotNegative

theorem settles_of_answers {gate : Gate} {r : Except Fault QueryResult}
    (h : Tool.AnswersQueryAt readings gate sql s events r s')
    (hcommit : ⟨.commit, .done⟩ ∈ events) :
    Settles readings events (answered (queryPayload r)) := by
  cases h with
  | refused hrefused => cases hcommit
  | failed haccepted run =>
    refine .of_failed (failed_answered _) fun result h => ?_
    cases run with
    | untimed hstart => cases hcommit
    | failed run => cases h.returned run hcommit
    | unmeasured run hfinish =>
      obtain ⟨start, finish, -, hfinish', -⟩ := h.timed
      rw [hfinish] at hfinish'
      cases hfinish'
  | answered haccepted run =>
    cases run with
    | timed run hstart hfinish => exact settles_of_timed run hcommit hstart hfinish

end

theorem start_handleQuery_settles (sql : String) {stage started : Stage Server}
    {service : Service} {gate : Gate}
    (h : ensureInitialized.start stage = (.ok (service, gate), started)) :
    ∃ events, ((handleQuery sql).start stage).2.world.journal = started.world.journal ++ events ∧
      (⟨.commit, .done⟩ ∈ events →
        Settles started.world.script.readings events ((handleQuery sql).start stage).1) := by
  obtain ⟨events, result, service', hjournal, hanswers, hresult, -⟩ := start_handleQuery_at sql h
  refine ⟨events, hjournal, fun hcommit => ?_⟩
  rw [hresult]
  exact settles_of_answers hanswers hcommit

/-- On an initialised server a query whose commit was done is answered with its result exactly if
the connection was given back, the clock gave its readings, the fetched rows are mappings that can
be written, and the time is not negative. Otherwise it is answered as a failure. -/
theorem handleQuery_committed (sql : String) {stage started : Stage Server} {service : Service}
    {gate : Gate} (h : ensureInitialized.start stage = (.ok (service, gate), started)) :
    ∃ events, ((handleQuery sql).start stage).2.world.journal = started.world.journal ++ events ∧
      (⟨.commit, .done⟩ ∈ events →
        ((∃ result, AnsweredBy ((handleQuery sql).start stage).1 result) ↔
          ∃ result, Reportable started.world.script.readings events result) ∧
        (∀ result, Reportable started.world.script.readings events result →
          AnsweredBy ((handleQuery sql).start stage).1 result) ∧
        ((¬ ∃ result, Reportable started.world.script.readings events result) →
          Failed ((handleQuery sql).start stage).1)) := by
  obtain ⟨events, hjournal, hsettles⟩ := start_handleQuery_settles sql h
  refine ⟨events, hjournal, fun hcommit => ?_⟩
  obtain ⟨hreports, hfails⟩ := hsettles hcommit
  refine ⟨⟨?_, ?_⟩, hreports, hfails⟩
  · rintro ⟨result, hanswered⟩
    by_contra hnone
    exact (hfails hnone).not_answeredBy hanswered
  · rintro ⟨result, hreportable⟩
    exact ⟨result, hreports result hreportable⟩

/-- A request makes no other calls than its query of the service. -/
theorem journal_handleQuery {sql : String} {stage started : Stage Server} {service : Service}
    {gate : Gate} (h : ensureInitialized.start stage = (.ok (service, gate), started))
    (haccepted : gate.judge sql = .ok ()) :
    ((handleQuery sql).start stage).2.world.journal =
      ((Tool.timedQuery sql (!gate.allowWrites)).start ⟨service, { started.world with
        records := started.world.records ++ gate.trail sql }⟩).2.world.journal := by
  rw [handleQuery, start_answer_bind h]
  refine (Act.KeepsStage.start_recover_view
    (fun fault => .journal_of_ends answerFault_shows) started).trans ?_
  refine (Act.KeepsStage.start_bind_view
    (fun result => .bind (.journal_of_ends .send) fun _ => .journal_of_ends written_shows)
    started).trans ?_
  exact Tool.journal_query haccepted ⟨service, started.world⟩

/-- The calls of a query without rows whose commit is done. -/
def committedCalls : List Event :=
  ⟨.checkOut 0, .done⟩ ::
    (finishedCursor [readOnlyStatement, timeoutText 30000, "SELECT 1"]
      [⟨.hasRows, .answered true⟩, ⟨.fetchAll, .fetched []⟩] ++
        [⟨.commit, .done⟩, ⟨.giveBack 0, .done⟩])

theorem handleQuery_committed_select :
    ((handleQuery "SELECT 1").start startedStage).2.world.journal =
        startedStage.world.journal ++ committedCalls ∧
      ⟨.commit, .done⟩ ∈ committedCalls ∧
      AnsweredBy ((handleQuery "SELECT 1").start startedStage).1
        ⟨[], 0, (elapsedMillis .zero .zero).roundTo 2⟩ := by
  have hstarted : ensureInitialized.start startedStage =
      (.ok (⟨localSettings, some 0, true⟩, gateOf localSettings), startedStage) := rfl
  have hcalls : ((handleQuery "SELECT 1").start startedStage).2.world.journal =
      startedStage.world.journal ++ committedCalls :=
    (journal_handleQuery hstarted rfl).trans rfl
  have hcommit : ⟨.commit, .done⟩ ∈ committedCalls := by simp [committedCalls]
  obtain ⟨events, hjournal, hcommitted⟩ := handleQuery_committed "SELECT 1" hstarted
  obtain rfl : events = committedCalls := List.append_cancel_left (hjournal.symm.trans hcalls)
  have hreportable {milliseconds : Double}
      (htime : milliseconds = (elapsedMillis .zero .zero).roundTo 2)
      (hle : milliseconds.AtLeastZero) :
      Reportable startedStage.world.script.readings committedCalls ⟨[], 0, milliseconds⟩ :=
    ⟨⟨0, by simp [committedCalls]⟩, ⟨.zero, rfl⟩, rfl, rfl, ⟨.zero, .zero, rfl, rfl, htime⟩, hle,
      ⟨_, rfl⟩⟩
  have hle : ((elapsedMillis .zero .zero).roundTo 2).AtLeastZero :=
    Tool.atLeastZero_elapsed rfl rfl (Int.le_refl _)
  exact ⟨hcalls, hcommit, (hcommitted hcommit).2.1 _ (hreportable rfl hle)⟩

/-- A clock that steps back by a second while a query is served. -/
def steppingBack : Stage Server :=
  let reading (seconds : Int) : Reply Double := some (.ok (Double.ofInt seconds))
  Surroundings.enter { script := { clock := [reading 10, reading 10, reading 10, reading 9] } }
    startedStage

/-- The commit is done and the connection is given back, but the answer is a failure. -/
theorem committed_answered_as_failure :
    ((handleQuery "SELECT 1").start steppingBack).2.world.journal =
        steppingBack.world.journal ++ committedCalls ∧
      ⟨.commit, .done⟩ ∈ committedCalls ∧
      (∃ failure document, Failure.document failure = .ok document ∧
        ((handleQuery "SELECT 1").start steppingBack).1 = .ok (text document)) ∧
      ¬ ∃ result, AnsweredBy ((handleQuery "SELECT 1").start steppingBack).1 result := by
  have hstarted : ensureInitialized.start steppingBack =
      (.ok (⟨localSettings, some 0, true⟩, gateOf localSettings), steppingBack) := rfl
  have hcalls : ((handleQuery "SELECT 1").start steppingBack).2.world.journal =
      steppingBack.world.journal ++ committedCalls :=
    (journal_handleQuery hstarted rfl).trans rfl
  have hcommit : ⟨.commit, .done⟩ ∈ committedCalls := by simp [committedCalls]
  have hnegative : ((elapsedMillis (.ofInt 10) (.ofInt 9)).roundTo 2).isNegative = true := by
    decide +kernel
  obtain ⟨events, hjournal, hsettles⟩ := start_handleQuery_settles "SELECT 1" hstarted
  obtain rfl : events = committedCalls := List.append_cancel_left (hjournal.symm.trans hcalls)
  have hten : steppingBack.world.script.readings 0 = .ok (.ofInt 10) := rfl
  have hnine : steppingBack.world.script.readings 3 = .ok (.ofInt 9) := rfl
  have hfailed := (hsettles hcommit).fails fun ⟨result, hreportable⟩ => by
    obtain ⟨start, finish, hstart, hfinish, htime⟩ := hreportable.timed
    obtain rfl : Double.ofInt 10 = start := Except.ok.inj (hten.symm.trans hstart)
    obtain rfl : Double.ofInt 9 = finish := Except.ok.inj (hnine.symm.trans hfinish)
    rw [← htime, hreportable.notNegative.notNegative] at hnegative
    cases hnegative
  refine ⟨hcalls, hcommit, ?_, fun ⟨result, hanswered⟩ => hfailed.not_answeredBy hanswered⟩
  have hclock : AllowedReplies Fault.Answerable steppingBack.world.script.clock := by
    intro fault hmem
    simp [steppingBack, Surroundings.enter] at hmem
  have hscript : steppingBack.world.script.Allows Fault.Answerable :=
    ⟨.nil, .nil, .nil, .nil, .nil, .nil, .nil, .nil, .nil, .nil, hclock⟩
  obtain ⟨payload, hpayload⟩ := (Inquiry.query "SELECT 1").handle_returns hscript
    fun settings path hstray => by rcases hstray.uninitialised with hnone | hnone <;> cases hnone
  change ((handleQuery "SELECT 1").start steppingBack).1 = _ at hpayload
  rw [hpayload] at hfailed ⊢
  cases hfailed with
  | answered hfailure => exact ⟨_, _, hfailure, rfl⟩

end QueryGate.Server
