import QueryGate.Proofs.Database.Balance
import QueryGate.Proofs.Value.Mapping

/-!
# Attempts of a query

What a query tries on its connection, up to the commit. An attempt stops at its first failing call,
behind which only the cursor is closed; its commit is its last call, behind a cursor that was closed
after every statement succeeded. A query is an attempt between a checkout and a return, with a
rollback where the attempt failed with an error of the driver.
-/

namespace QueryGate

open QueryGate.Number

namespace Call

def isCommit : Call → Bool
  | .commit => true
  | _ => false

def isRollback : Call → Bool
  | .rollback => true
  | _ => false

/-- The call is tried by a query on its connection: a cursor, a statement, rows, or the commit. -/
def isTried (call : Call) : Bool := call.isOpenCursor || call.isStatement || call.isCommit

variable {call : Call}

theorem of_isCursor (h : call.isCursor = true) :
    call.isCommit = false ∧ call.isRollback = false := by
  cases call <;> first | exact ⟨rfl, rfl⟩ | cases h

theorem isCommit_of_isCheckOut (h : call.isCheckOut = true) : call.isCommit = false := by
  cases call <;> first | rfl | cases h

theorem isCommit_of_settles (h : call.settles false = true) : call.isCommit = false := by
  cases call <;> first | rfl | cases h

theorem isRollback_of_isTried (h : call.isTried = true) : call.isRollback = false := by
  cases call <;> first | rfl | cases h

theorem isTried_of_isStatement (h : call.isStatement = true) : call.isTried = true := by
  simp [isTried, h]

end Call

def Event.fetched : Event → List Value
  | ⟨.fetchAll, .fetched rows⟩ => rows
  | _ => []

/-- The rows that events fetch, in order. -/
def fetchedRows (events : List Event) : List Value := events.flatMap Event.fetched

@[simp] theorem fetchedRows_append (events more : List Event) :
    fetchedRows (events ++ more) = fetchedRows events ++ fetchedRows more :=
  List.flatMap_append

namespace Service

/-- The calls that ask for the result of the last statement, with its rows. -/
inductive Results : List Value → List Event → Prop where
  | none : Results [] [⟨.hasRows, .answered false⟩]
  | fetched (rows : List Value) :
      Results rows [⟨.hasRows, .answered true⟩, ⟨.fetchAll, .fetched rows⟩]

/-- The calls on a cursor that executed statements and asked for the result. -/
def finishedCursor (texts : List String) (result : List Event) : List Event :=
  ⟨.openCursor true, .done⟩ :: (executed texts ++ result ++ [⟨.closeCursor, .done⟩])

variable {sql : String} {readOnly : Bool} {timeout : Int} {s s' : Service} {events : List Event}

theorem Results.isStatement {rows : List Value} {result : List Event} (h : Results rows result) :
    ∀ event ∈ result, event.call.isStatement = true ∧ event.ending.succeeded = true := by
  cases h with
  | none => simp [Call.isStatement, Ending.succeeded]
  | fetched rows => simp [Call.isStatement, Ending.succeeded]

theorem succeeded_of_mem_executed {texts : List String} {event : Event}
    (h : event ∈ executed texts) : event.ending.succeeded = true := by
  obtain ⟨text, -, rfl⟩ := List.mem_map.mp h
  rfl

@[simp] theorem executed_append (texts more : List String) :
    executed (texts ++ more) = executed texts ++ executed more :=
  List.map_append

@[simp] theorem fetchedRows_executed (texts : List String) : fetchedRows (executed texts) = [] := by
  simp [fetchedRows, executed, List.flatMap_map, Event.fetched]

theorem RunsStatements.finished {rows : List Value}
    (h : RunsStatements sql readOnly timeout s events (.ok rows) s') :
    ∃ result, Results rows result ∧
      events = executed (setUp readOnly timeout ++ [sql]) ++ result := by
  cases h with
  | empty => exact ⟨_, .none, by simp [executed]⟩
  | fetched rows => exact ⟨_, .fetched rows, by simp [executed]⟩

/-- Calls up to the first failure, behind which only a cursor is closed. -/
inductive StopsAt (fault : Fault) : List Event → Prop where
  | stopsAt {front closing : List Event} {call : Call} (hcall : call.isTried = true)
      (hfront : ∀ event ∈ front, event.call.isRollback = false ∧ event.ending.succeeded = true)
      (hclosing : closing = [] ∨ closing = [⟨.closeCursor, .done⟩]) :
      StopsAt fault (front ++ ⟨call, .raised fault⟩ :: closing)

theorem StopsAt.isRollback {fault : Fault} (h : StopsAt fault events) :
    ∀ event ∈ events, event.call.isRollback = false := by
  obtain ⟨hcall, hfront, hclosing⟩ := h
  intro event hmem
  simp only [List.mem_append, List.mem_cons] at hmem
  obtain hmem | rfl | hmem := hmem
  · exact (hfront event hmem).1
  · exact Call.isRollback_of_isTried hcall
  · rcases hclosing with rfl | rfl
    · cases hmem
    · obtain rfl := List.mem_singleton.mp hmem
      rfl

/-- No other call fails but the one that the calls stop at. -/
theorem StopsAt.eq_of_mem {fault other : Fault} {call : Call} (h : StopsAt fault events)
    (hmem : ⟨call, .raised other⟩ ∈ events) : other = fault := by
  obtain ⟨hcall, hfront, hclosing⟩ := h
  simp only [List.mem_append, List.mem_cons] at hmem
  obtain hmem | hmem | hmem := hmem
  · cases (hfront _ hmem).2
  · cases hmem
    rfl
  · rcases hclosing with rfl | rfl
    · cases hmem
    · cases List.mem_singleton.mp hmem

/-- The fault of a time limit that is too large to be written. -/
def Oversizes (timeout : Int) (fault : Fault) : Prop :=
  fault = .oversized ∧ fits timeout = false

/-- The statements stop at a call that fails, or before a time limit that cannot be written. -/
theorem RunsStatements.stopsAt {fault : Fault}
    (h : RunsStatements sql readOnly timeout s events (.error fault) s') :
    ∃ front, (∀ event ∈ front, event.call.isStatement = true ∧ event.ending.succeeded = true) ∧
      ((∃ call, call.isStatement = true ∧ events = front ++ [⟨call, .raised fault⟩]) ∨
        Oversizes timeout fault ∧ events = front) := by
  have hexecuted (texts : List String) : ∀ event ∈ executed texts,
      event.call.isStatement = true ∧ event.ending.succeeded = true := fun event hmem =>
    ⟨isStatement_of_mem_executed hmem, succeeded_of_mem_executed hmem⟩
  cases h with
  | setUpFailed before text after hsetUp fault =>
    exact ⟨executed before, hexecuted before, .inl ⟨.execute text [], rfl, rfl⟩⟩
  | oversized hlarge => exact ⟨_, hexecuted (permission readOnly), .inr ⟨⟨rfl, hlarge⟩, rfl⟩⟩
  | failed fault =>
    exact ⟨executed (setUp readOnly timeout), hexecuted _, .inl ⟨.execute sql [], rfl, rfl⟩⟩
  | lost fault =>
    exact ⟨executed (setUp readOnly timeout ++ [sql]), hexecuted _,
      .inl ⟨.hasRows, rfl, by simp [executed]⟩⟩
  | unfetched fault =>
    refine ⟨executed (setUp readOnly timeout ++ [sql]) ++ [⟨.hasRows, .answered true⟩], ?_,
      .inl ⟨.fetchAll, rfl, by simp [executed]⟩⟩
    intro event hmem
    rcases List.mem_append.mp hmem with hmem | hmem
    · exact hexecuted _ event hmem
    · obtain rfl := List.mem_singleton.mp hmem
      exact ⟨rfl, rfl⟩

theorem UsesCursor.stopsAt {fault : Fault}
    (h : UsesCursor true (RunsStatements sql readOnly timeout) s events (.error fault) s') :
    StopsAt fault events ∨ Oversizes timeout fault ∧
      ∀ event ∈ events, event.call.isRollback = false ∧ event.ending.succeeded = true := by
  cases h with
  | refused fault =>
    change StopsAt fault ([] ++ ⟨.openCursor true, .raised fault⟩ :: []) ∨ _
    exact .inl (.stopsAt rfl (by simp) (.inl rfl))
  | used run =>
    obtain ⟨front, hfront, hends⟩ := run.stopsAt
    have hopened : ∀ event ∈ ⟨.openCursor true, .done⟩ :: front,
        event.call.isRollback = false ∧ event.ending.succeeded = true := by
      intro event hmem
      rcases List.mem_cons.mp hmem with rfl | hmem
      · exact ⟨rfl, rfl⟩
      · have hevent := hfront event hmem
        exact ⟨Call.isRollback_of_isTried (Call.isTried_of_isStatement hevent.1), hevent.2⟩
    rcases hends with ⟨call, hcall, rfl⟩ | ⟨hlarge, rfl⟩
    · left
      simpa using StopsAt.stopsAt (Call.isTried_of_isStatement hcall) hopened (.inr rfl)
    · right
      refine ⟨hlarge, fun event hmem => ?_⟩
      rcases List.mem_append.mp (List.cons_append ▸ hmem) with hmem | hmem
      · exact hopened event hmem
      · obtain rfl := List.mem_singleton.mp hmem
        exact ⟨rfl, rfl⟩

theorem UsesCursor.finished {rows : List Value}
    (h : UsesCursor true (RunsStatements sql readOnly timeout) s events (.ok rows) s') :
    ∃ result, Results rows result ∧
      events = finishedCursor (setUp readOnly timeout ++ [sql]) result := by
  cases h with
  | used run =>
    obtain ⟨result, hresult, rfl⟩ := run.finished
    exact ⟨result, hresult, rfl⟩

section

variable {texts : List String} {rows : List Value} {result : List Event}

theorem finishedCursor_cursorCalls (h : Results rows result) :
    CursorCalls (finishedCursor texts result) := by
  refine .used true fun event hmem => ?_
  rcases List.mem_append.mp hmem with hmem | hmem
  · exact isStatement_of_mem_executed hmem
  · exact (h.isStatement event hmem).1

theorem finishedCursor_quiet (h : Results rows result) :
    ∀ event ∈ finishedCursor texts result,
      event.call.isCommit = false ∧ event.call.isRollback = false ∧
        event.ending.succeeded = true := by
  intro event hmem
  obtain ⟨hcommit, hrollback⟩ :=
    Call.of_isCursor ((finishedCursor_cursorCalls h).isCursor event hmem)
  refine ⟨hcommit, hrollback, ?_⟩
  simp only [finishedCursor, List.mem_cons, List.mem_append, List.not_mem_nil, or_false] at hmem
  obtain rfl | (hmem | hmem) | rfl := hmem
  · rfl
  · exact succeeded_of_mem_executed hmem
  · exact (h.isStatement event hmem).2
  · rfl

theorem fetchedRows_finishedCursor (h : Results rows result) :
    fetchedRows (finishedCursor texts result) = rows := by
  have hresult : fetchedRows result = rows := by
    cases h with
    | none => rfl
    | fetched rows => simp [fetchedRows, Event.fetched]
  calc fetchedRows (finishedCursor texts result)
      = fetchedRows (executed texts) ++ fetchedRows result ++ [] := by
        simp [finishedCursor, fetchedRows, Event.fetched]
    _ = rows := by simp [hresult]

end

section

variable {start finish : Except Fault Double} {r : Except Fault (List Entries)}

/-- No call fails, or the calls stop at the first that does. -/
theorem AttemptsAt.succeeds_or_stopsAt
    (h : AttemptsAt start finish sql readOnly timeout s events r s') :
    (∀ event ∈ events, event.call.isRollback = false ∧ event.ending.succeeded = true) ∨
      ∃ fault, r = .error fault ∧ StopsAt fault events := by
  cases h with
  | untimed hstart => exact .inl (by simp)
  | stopped run =>
    rcases run.stopsAt with hstops | ⟨-, hquiet⟩
    · exact .inr ⟨_, rfl, hstops⟩
    · exact .inl hquiet
  | uncommitted run fault =>
    obtain ⟨result, hresult, rfl⟩ := run.finished
    have hfront : ∀ event ∈ finishedCursor (setUp readOnly timeout ++ [sql]) result,
        event.call.isRollback = false ∧ event.ending.succeeded = true := fun event hmem =>
      (finishedCursor_quiet hresult event hmem).2
    exact .inr ⟨fault, rfl, .stopsAt rfl hfront (.inl rfl)⟩
  | committed run =>
    obtain ⟨result, hresult, rfl⟩ := run.finished
    refine .inl fun event hmem => ?_
    rcases List.mem_append.mp hmem with hmem | hmem
    · exact (finishedCursor_quiet hresult event hmem).2
    · obtain rfl := List.mem_singleton.mp hmem
      exact ⟨rfl, rfl⟩

theorem AttemptsAt.isRollback
    (h : AttemptsAt start finish sql readOnly timeout s events r s') :
    ∀ event ∈ events, event.call.isRollback = false := by
  rcases h.succeeds_or_stopsAt with hquiet | ⟨fault, -, hstops⟩
  · exact fun event hmem => (hquiet event hmem).1
  · exact hstops.isRollback

/-- An attempt is not committed and fails, or its last call is the commit, behind a finished
cursor. -/
inductive CommitsAt (texts : List String) (finish : Except Fault Double) :
    List Event → Except Fault (List Entries) → Prop where
  | never {events : List Event} (h : ∀ event ∈ events, event.call.isCommit = false)
      (fault : Fault) : CommitsAt texts finish events (.error fault)
  | refused {rows : List Value} {result : List Event} (h : Results rows result) (fault : Fault) :
      CommitsAt texts finish (finishedCursor texts result ++ [⟨.commit, .raised fault⟩])
        (.error fault)
  | done {rows : List Value} {result : List Event} (h : Results rows result) :
      CommitsAt texts finish (finishedCursor texts result ++ [⟨.commit, .done⟩])
        (settled finish rows)

theorem AttemptsAt.commitsAt (h : AttemptsAt start finish sql readOnly timeout s events r s') :
    CommitsAt (setUp readOnly timeout ++ [sql]) finish events r := by
  cases h with
  | untimed hstart => exact .never (by simp) _
  | stopped run =>
    have hcursor : CursorCalls events := run.cursorCalls fun _ h => h.isStatement
    exact .never (fun event hmem => (Call.of_isCursor (hcursor.isCursor event hmem)).1) _
  | uncommitted run fault =>
    obtain ⟨result, hresult, rfl⟩ := run.finished
    exact .refused hresult fault
  | committed run =>
    obtain ⟨result, hresult, rfl⟩ := run.finished
    exact .done hresult

/-- An attempt ends with an error of the driver only if one was raised. -/
theorem AttemptsAt.driver {error : DriverError}
    (h : AttemptsAt start finish sql readOnly timeout s events (.error (.driver error)) s') :
    (∃ call, call.isTried = true ∧ ⟨call, .raised (.driver error)⟩ ∈ events) ∨
      start = .error (.driver error) ∨ finish = .error (.driver error) := by
  generalize hr : (.error (.driver error) : Except Fault (List Entries)) = r at h
  cases h with
  | untimed hstart =>
    cases hr
    exact .inr (.inl hstart)
  | stopped run =>
    cases hr
    rcases run.stopsAt with @⟨front, closing, call, hcall, -, -⟩ | ⟨⟨⟨⟩, -⟩, -⟩
    exact .inl ⟨call, hcall, by simp⟩
  | uncommitted run fault =>
    cases hr
    exact .inl ⟨.commit, rfl, by simp⟩
  | @committed _ rows _ run =>
    cases finish with
    | error fault =>
      cases hr
      exact .inr (.inr rfl)
    | ok reading =>
      -- What is left to fail is reading a row, and its faults are none of the driver.
      have hrows : rows.mapM Entries.ofValue = .error (.driver error) := hr.symm
      obtain ⟨kind, message, hplain⟩ := Entries.isPlain_of_mapM_ofValue hrows
      cases hplain

/-- What follows the attempt of a query on its connection. -/
inductive RollsBack (r : Except Fault (List Entries)) : List Event → Prop where
  | kept (h : ∀ error, r ≠ .error (.driver error)) : RollsBack r []
  | reverted {error : DriverError} (h : r = .error (.driver error)) (ending : Ending) :
      RollsBack r [⟨.rollback, ending⟩]

/-- A query without a connection, or its attempt with what follows on the connection. -/
inductive Queries (start finish : Except Fault Double) (sql : String) (readOnly : Bool)
    (timeout : Int) (s : Service) : List Event → Except Fault (List Entries) → Prop where
  | unconnected {events : List Event} (h : ∀ event ∈ events, event.call.isCheckOut = true)
      (fault : Fault) : Queries start finish sql readOnly timeout s events (.error fault)
  | used {pool : Nat} (hpool : s.pool = some pool) {attempt ends : List Event}
      {attempted r : Except Fault (List Entries)} {s' : Service} (last : Ending)
      (run : AttemptsAt start finish sql readOnly timeout s attempt attempted s')
      (back : RollsBack attempted ends)
      (hr : ∀ found, r = .ok found ↔ attempted = .ok found ∧ last = .done) :
      Queries start finish sql readOnly timeout s
        ([⟨.checkOut pool, .done⟩] ++ attempt ++ ends ++ [⟨.giveBack pool, last⟩]) r

theorem RunsQueryAt.rollsBack (h : RunsQueryAt start finish sql readOnly timeout s events r s') :
    ∃ attempt ends attempted, AttemptsAt start finish sql readOnly timeout s attempt attempted s' ∧
      RollsBack attempted ends ∧ events = attempt ++ ends ∧
        ∀ found, r = .ok found ↔ attempted = .ok found := by
  cases h with
  | settled run hr =>
    refine ⟨events, [], r, run, .kept ?_, by simp, fun _ => .rfl⟩
    rintro error rfl
    cases hr _ rfl
  | @rolledBack attempt fault _ _ run hreport =>
    cases fault with
    | driver error => exact ⟨attempt, _, _, run, .reverted rfl _, rfl, by simp⟩
    | _ => cases hreport
  | @stuck attempt fault _ _ run hreport failure =>
    cases fault with
    | driver error => exact ⟨attempt, _, _, run, .reverted rfl _, rfl, by simp⟩
    | _ => cases hreport

theorem Connects.queries
    (h : Connects (RunsQueryAt start finish sql readOnly timeout) s events r s') :
    Queries start finish sql readOnly timeout s events r := by
  cases h with
  | closed hpool => exact .unconnected (by simp) _
  | refused hpool fault => exact .unconnected (by simp [Call.isCheckOut]) _
  | used hpool run =>
    obtain ⟨attempt, ends, attempted, hattempt, back, rfl, hr⟩ := run.rollsBack
    simpa using Queries.used hpool .done hattempt back (by simpa using hr)
  | stuck hpool run fault =>
    obtain ⟨attempt, ends, attempted, hattempt, back, rfl, hr⟩ := run.rollsBack
    have hfailed (found : List Entries) : (.error fault : Except Fault (List Entries)) = .ok found ↔
        attempted = .ok found ∧ Ending.raised fault = .done := by simp
    simpa using Queries.used hpool (.raised fault) hattempt back hfailed

end

end Service

end QueryGate
