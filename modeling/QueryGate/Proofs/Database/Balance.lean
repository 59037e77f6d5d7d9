import Mathlib.Data.List.Basic
import QueryGate.Proofs.Database.Operation

/-!
# Connections and cursors are balanced

Whatever the driver replies, an operation of the service takes at most one connection out of the
pool, and a connection that was taken out is given back by the last call. A cursor that was opened
is closed once, before the transaction is settled. So no script of failures drains the pool.
-/

namespace QueryGate

namespace Call

def isCheckOut : Call → Bool
  | .checkOut _ => true
  | _ => false

def isGiveBack : Call → Bool
  | .giveBack _ => true
  | _ => false

def isOpenCursor : Call → Bool
  | .openCursor _ => true
  | _ => false

def isCloseCursor : Call → Bool
  | .closeCursor => true
  | _ => false

/-- The call opens, uses or closes a cursor. -/
def isCursor (call : Call) : Bool := call.isOpenCursor || call.isStatement || call.isCloseCursor

/-- The call is made on a connection, between its checkout and its return. -/
def isWork (call : Call) : Bool :=
  call.isStatement || call.isOpenCursor || call.isCloseCursor || call.settles true

/-- The call needs the cursors of a connection to be closed. -/
def needsClosed (call : Call) : Bool := call.isGiveBack || call.settles true

variable {commits : Bool} {call : Call}

theorem settles_true (h : call.settles commits = true) : call.settles true = true := by
  cases call <;> first | rfl | cases h

theorem of_isStatement (h : call.isStatement = true) :
    call.needsClosed = false ∧ call.isCloseCursor = false := by
  cases call <;> first | exact ⟨rfl, rfl⟩ | cases h

theorem of_settles (h : call.settles commits = true) : call.isCloseCursor = false := by
  cases call <;> first | rfl | cases h

theorem isWork_of_isCursor (h : call.isCursor = true) : call.isWork = true := by
  cases call <;> first | rfl | cases h

theorem of_isWork (h : call.isWork = true) : call.isCheckOut = false ∧ call.isGiveBack = false := by
  cases call <;> first | exact ⟨rfl, rfl⟩ | cases h

end Call

namespace Service

/-- How many of the calls are of a kind. -/
def calls (kind : Call → Bool) (events : List Event) : Nat :=
  events.countP fun event => kind event.call

/-- What is taken is given back: the connection to its pool, and the cursor to the connection. -/
structure Balanced (s : Service) (events : List Event) : Prop where
  closed : s.pool = none → events = []
  first : ∀ event, events.head? = some event → ∃ pool, s.pool = some pool ∧
    event.call = .checkOut pool
  once : calls Call.isCheckOut events ≤ 1
  refused : ∀ pool ending, ⟨.checkOut pool, ending⟩ ∈ events → ending.succeeded = false →
    events = [⟨.checkOut pool, ending⟩]
  returned : ∀ pool ending, ⟨.checkOut pool, ending⟩ ∈ events → ending.succeeded = true →
    calls Call.isGiveBack events = 1 ∧
      ∃ last, events.getLast? = some ⟨.giveBack pool, last⟩
  cursors : ∀ before named ending after, events = before ++ ⟨.openCursor named, ending⟩ :: after →
    ending.succeeded = true →
      ∃ used rest, after = used ++ ⟨.closeCursor, .done⟩ :: rest ∧
        (∀ event ∈ before ++ used, event.call.needsClosed = false) ∧
        calls Call.isCloseCursor (before ++ used ++ rest) = 0

section

variable {commits : Bool} {s : Service} {events : List Event}

theorem calls_eq_zero {kind : Call → Bool}
    (h : ∀ event ∈ events, kind event.call = false) : calls kind events = 0 := by
  rw [calls, List.countP_eq_zero]
  intro event hmem hkind
  simp [h event hmem] at hkind

@[simp] theorem calls_append (kind : Call → Bool) (events more : List Event) :
    calls kind (events ++ more) = calls kind events + calls kind more :=
  List.countP_append

@[simp] theorem calls_cons (kind : Call → Bool) (event : Event) (events : List Event) :
    calls kind (event :: events) = calls kind events + if kind event.call then 1 else 0 :=
  List.countP_cons

@[simp] theorem calls_nil (kind : Call → Bool) : calls kind [] = 0 := rfl

theorem CursorCalls.isCursor (h : CursorCalls events) :
    ∀ event ∈ events, event.call.isCursor = true := by
  intro event hmem
  cases h with
  | none => cases hmem
  | refused named fault =>
    obtain rfl := List.mem_singleton.mp hmem
    rfl
  | used named hstatements =>
    rcases List.mem_cons.mp hmem with rfl | hmem
    · rfl
    · rcases List.mem_append.mp hmem with hmem | hmem
      · simp [Call.isCursor, hstatements event hmem]
      · obtain rfl := List.mem_singleton.mp hmem
        rfl

theorem Works.isWork (h : Works commits events) : ∀ event ∈ events, event.call.isWork = true := by
  obtain ⟨hcursor, hends⟩ := h
  intro event hmem
  rcases List.mem_append.mp hmem with hmem | hmem
  · exact Call.isWork_of_isCursor (hcursor.isCursor event hmem)
  · simp [Call.isWork, Call.settles_true (hends event hmem)]

/-- The cursor of a connection is closed once, before the transaction is settled. -/
theorem Works.closesCursor (h : Works commits events) {pool : Nat} {last : Ending}
    {before after : List Event} {named : Bool} {ending : Ending}
    (hevents : ⟨.checkOut pool, .done⟩ :: (events ++ [⟨.giveBack pool, last⟩]) =
      before ++ ⟨.openCursor named, ending⟩ :: after) (hending : ending.succeeded = true) :
    ∃ used rest, after = used ++ ⟨.closeCursor, .done⟩ :: rest ∧
      (∀ event ∈ before ++ used, event.call.needsClosed = false) ∧
      calls Call.isCloseCursor (before ++ used ++ rest) = 0 := by
  obtain @⟨cursor, ends, hcursor, hends⟩ := h
  have hmem : ⟨.openCursor named, ending⟩ ∈
      ⟨.checkOut pool, .done⟩ :: (cursor ++ ends ++ [⟨.giveBack pool, last⟩]) :=
    hevents ▸ List.mem_append_cons_self
  have hnotEnds : ⟨.openCursor named, ending⟩ ∉ ends := fun hmem => by
    simpa [Call.settles] using hends _ hmem
  cases hcursor with
  | none => simp [hnotEnds] at hmem
  | refused named' fault =>
    obtain ⟨-, rfl⟩ : named = named' ∧ ending = .raised fault := by simpa [hnotEnds] using hmem
    cases hending
  | @used named' statements hstatements =>
    have hnotStatements : ⟨.openCursor named, ending⟩ ∉ statements := fun hmem => by
      simpa [Call.isStatement] using hstatements _ hmem
    -- The cursor is the only one, so that its opening splits the calls in one way.
    have hsplit : [⟨.checkOut pool, .done⟩] ++ ⟨.openCursor named', .done⟩ ::
        (statements ++ ⟨.closeCursor, .done⟩ :: (ends ++ [⟨.giveBack pool, last⟩])) =
          before ++ ⟨.openCursor named, ending⟩ :: after := by
      simpa using hevents
    obtain ⟨rfl, -, rfl⟩ := (List.append_cons_inj_of_notMem (by simp)
      (by simp [hnotStatements, hnotEnds])).mp hsplit
    refine ⟨statements, ends ++ [⟨.giveBack pool, last⟩], rfl, ?_, ?_⟩
    · intro event hmem
      rcases List.mem_append.mp hmem with hmem | hmem
      · obtain rfl := List.mem_singleton.mp hmem
        rfl
      · exact (Call.of_isStatement (hstatements event hmem)).1
    · have hused : calls Call.isCloseCursor statements = 0 := calls_eq_zero fun event hmem =>
        (Call.of_isStatement (hstatements event hmem)).2
      have hrest : calls Call.isCloseCursor ends = 0 := calls_eq_zero fun event hmem =>
        Call.of_settles (hends event hmem)
      simp [hused, hrest, Call.isCloseCursor]

theorem UsesConnection.balanced (h : UsesConnection commits s events) : Balanced s events := by
  cases h with
  | idle => constructor <;> simp
  | @refused pool hpool fault =>
    constructor
    case closed => simp [hpool]
    case first => simp [hpool]
    case once => simp [Call.isCheckOut]
    case refused =>
      intro pool' ending hmem _
      rw [List.mem_singleton.mp hmem]
    case returned =>
      intro pool' ending hmem hending
      obtain ⟨-, rfl⟩ : pool' = pool ∧ ending = .raised fault := by simpa using hmem
      cases hending
    case cursors =>
      intro before named ending after hevents
      have hmem : Event.mk (.openCursor named) ending ∈ [⟨.checkOut pool, .raised fault⟩] :=
        hevents ▸ List.mem_append_cons_self
      cases List.mem_singleton.mp hmem
  | @used pool hpool work hwork last =>
    have hother : ∀ event ∈ work,
        event.call.isCheckOut = false ∧ event.call.isGiveBack = false :=
      fun event hmem => Call.of_isWork (hwork.isWork event hmem)
    have htaken : calls Call.isCheckOut work = 0 := calls_eq_zero fun event h => (hother event h).1
    have hback : calls Call.isGiveBack work = 0 := calls_eq_zero fun event h => (hother event h).2
    have hcheckOut {pool' : Nat} {ending : Ending} (hmem : ⟨.checkOut pool', ending⟩ ∈
        ⟨.checkOut pool, .done⟩ :: (work ++ [⟨.giveBack pool, last⟩])) :
        pool' = pool ∧ ending = .done := by
      have hnot : ⟨.checkOut pool', ending⟩ ∉ work := fun hmem => by
        simpa [Call.isCheckOut] using (hother _ hmem).1
      simpa [hnot] using hmem
    constructor
    case closed => simp [hpool]
    case first => simp [hpool]
    case once => simp [htaken, Call.isCheckOut]
    case refused =>
      intro pool' ending hmem hending
      obtain ⟨-, rfl⟩ := hcheckOut hmem
      cases hending
    case returned =>
      intro pool' ending hmem _
      obtain ⟨rfl, -⟩ := hcheckOut hmem
      refine ⟨by simp [hback, Call.isGiveBack], last, ?_⟩
      rw [← List.cons_append, List.getLast?_concat]
    case cursors =>
      intro before named ending after hevents hending
      exact hwork.closesCursor hevents hending

/-- Every operation of the service is balanced, under every script of replies. -/
theorem Operation.run_balanced (operation : Operation) :
    operation.run.Shows fun s events _ _ => Balanced s events :=
  operation.usesConnection.mono fun _ _ _ _ h => h.balanced

end

end Service

end QueryGate
