import QueryGate.Proofs.Database.Attempt
import QueryGate.Proofs.Text.Trim

/-!
# Errors of the driver surface

If one call fails on a connection, and it fails with an error of the driver, then nothing else is
tried there: the transaction is rolled back, the connection is given back, and what the operation
ends with is an error of the service. It has a text, and the code and the detail of the driver's
error. This holds at whatever call the error strikes, and of whatever kind it is.
-/

namespace QueryGate

open QueryGate.Number QueryGate.Text

variable {α β : Type}

/-- The calls that failed, in order. -/
def failures (events : List Event) : List Event :=
  events.filter fun event => !event.ending.succeeded

/-- One call failed and no other: a cursor, a statement, rows or the commit, with an error of the
driver. -/
def FailsOnce (error : DriverError) (events : List Event) : Prop :=
  ∃ call : Call, call.isTried = true ∧ failures events = [⟨call, .raised (.driver error)⟩]

namespace FailsOnce

variable {error : DriverError} {events : List Event} {event : Event}

theorem not_nil : ¬ FailsOnce error [] := by
  rintro ⟨call, -, hfailures⟩
  cases hfailures

theorem mem (h : FailsOnce error events) :
    ∃ call : Call, call.isTried = true ∧ ⟨call, .raised (.driver error)⟩ ∈ events := by
  obtain ⟨call, hcall, hfailures⟩ := h
  have hmem : ⟨call, .raised (.driver error)⟩ ∈ failures events := by rw [hfailures]; simp
  exact ⟨call, hcall, List.mem_of_mem_filter hmem⟩

theorem of_cons (h : FailsOnce error (event :: events))
    (hevent : event.ending.succeeded = true) : FailsOnce error events := by
  obtain ⟨call, hcall, hfailures⟩ := h
  rw [failures, List.filter_cons_of_neg (by simp [hevent])] at hfailures
  exact ⟨call, hcall, hfailures⟩

/-- The call that failed stands before a call of another kind, which did not fail. -/
theorem of_append (h : FailsOnce error (events ++ [event]))
    (hevent : event.call.isTried = false) :
    FailsOnce error events ∧ event.ending.succeeded = true := by
  obtain ⟨call, hcall, hfailures⟩ := h
  rw [failures, List.filter_append] at hfailures
  cases hending : event.ending.succeeded with
  | true =>
    rw [List.filter_cons_of_neg (by simp [hending]), List.filter_nil, List.append_nil] at hfailures
    exact ⟨⟨call, hcall, hfailures⟩, rfl⟩
  | false =>
    rw [List.filter_cons_of_pos (by simp [hending]), List.filter_nil] at hfailures
    obtain ⟨-, hlast⟩ := (List.append_eq_singleton_iff.mp hfailures).resolve_right (by simp)
    cases hlast
    rw [hcall] at hevent
    cases hevent

end FailsOnce

namespace Service

open Behaviour

variable {s s' : Service} {events : List Event} {error : DriverError}

/-- Statements that all succeed, or that stop at the first one that fails, whose fault is the
result. -/
inductive Tries : List Event → Except Fault α → Prop where
  | completed {events : List Event} {r : Except Fault α}
      (h : ∀ event ∈ events, event.call.isStatement = true ∧ event.ending.succeeded = true) :
      Tries events r
  | failed {front : List Event} {call : Call} {fault : Fault} (hcall : call.isStatement = true)
      (hfront : ∀ event ∈ front,
        event.call.isStatement = true ∧ event.ending.succeeded = true) :
      Tries (front ++ [⟨call, .raised fault⟩]) (.error fault)

/-- A call that is tried fails only with the fault that is the result, and there is no rollback
then. -/
def Heeds (events : List Event) (r : Except Fault α) : Prop :=
  ∀ call fault, call.isTried = true → ⟨call, .raised fault⟩ ∈ events →
    r = .error fault ∧ ∀ event ∈ events, event.call.isRollback = false

namespace Tries

variable {r : Except Fault α}

theorem isStatement (h : Tries events r) : ∀ event ∈ events, event.call.isStatement = true := by
  intro event hmem
  cases h with
  | completed h => exact (h event hmem).1
  | failed hcall hfront =>
    rcases List.mem_append.mp hmem with hmem | hmem
    · exact (hfront event hmem).1
    · obtain rfl := List.mem_singleton.mp hmem
      exact hcall

theorem behind {front : List Event} (h : Tries events r)
    (hfront : ∀ event ∈ front, event.call.isStatement = true ∧ event.ending.succeeded = true) :
    Tries (front ++ events) r := by
  cases h with
  | completed h => exact .completed (List.forall_mem_append.mpr ⟨hfront, h⟩)
  | failed hcall h =>
    rw [← List.append_assoc]
    exact .failed hcall (List.forall_mem_append.mpr ⟨hfront, h⟩)

theorem map (h : Tries events r) (f : α → β) : Tries events (r.map f) := by
  cases h with
  | completed h => exact .completed h
  | failed hcall hfront => exact .failed hcall hfront

theorem of_ok {a : α} (h : Tries events (.ok a)) :
    ∀ event ∈ events, event.call.isStatement = true ∧ event.ending.succeeded = true := by
  cases h with
  | completed h => exact h

theorem eq_of_mem {call : Call} {fault : Fault} (h : Tries events r)
    (hmem : ⟨call, .raised fault⟩ ∈ events) : r = .error fault := by
  cases h with
  | completed h => cases (h _ hmem).2
  | failed hcall hfront =>
    rcases List.mem_append.mp hmem with hmem | hmem
    · cases (hfront _ hmem).2
    · cases List.mem_singleton.mp hmem
      rfl

end Tries

theorem Fetches.tries {sql : String} {parameters : List String}
    {r : Except Fault (List Entries)} (h : Fetches sql parameters s events r s') :
    Tries events r := by
  cases h with
  | failed fault =>
    change Tries ([] ++ [⟨.execute sql parameters, .raised fault⟩]) _
    exact .failed rfl (by simp)
  | unfetched fault =>
    change Tries ([⟨.execute sql parameters, .done⟩] ++ [⟨.fetchAll, .raised fault⟩]) _
    exact .failed rfl (by simp [Call.isStatement, Ending.succeeded])
  | fetched rows => exact .completed (by simp [Call.isStatement, Ending.succeeded])

theorem ReadsTable.tries {schema table sampleQuery : String}
    {r : Except Fault (List Entries × List Entries)}
    (h : ReadsTable schema table sampleQuery s events r s') : Tries events r := by
  cases h with
  | unread columns => exact columns.tries.map fun columns => (columns, [])
  | missing columns => exact .completed columns.tries.of_ok
  | sampled first hcolumns next => exact (next.tries.map _).behind first.tries.of_ok

theorem UsesCursor.heeds {named : Bool} {b : Behaviour Service α} {r : Except Fault α}
    (h : UsesCursor named b s events r s') (hb : ∀ events, b s events r s' → Tries events r) :
    Heeds events r := by
  intro call fault htried hmem
  have hcursor : CursorCalls events := h.cursorCalls fun events run => (hb events run).isStatement
  refine ⟨?_, fun event hmem => (Call.of_isCursor (hcursor.isCursor event hmem)).2⟩
  cases h with
  | refused refusal =>
    cases List.mem_singleton.mp hmem
    rfl
  | used run =>
    simp only [List.mem_cons, List.mem_append, List.not_mem_nil, or_false, Event.mk.injEq,
      reduceCtorEq, and_false, false_or] at hmem
    exact (hb _ run).eq_of_mem hmem

theorem Looks.heeds {named : Bool} {b : Behaviour Service α} {r : Except Fault α}
    (h : Looks named b s events r s')
    (hb : ∀ events r, b s events r s' → Tries events r) : Heeds events r := by
  -- A rollback is no call that is tried, and what was tried before it returned.
  have hreturned {events : List Event} {a : α} {ending : Ending} {r : Except Fault α}
      (run : UsesCursor named b s events (.ok a) s') :
      Heeds (events ++ [⟨.rollback, ending⟩]) r := by
    intro call fault htried hmem
    rcases List.mem_append.mp hmem with hmem | hmem
    · cases (run.heeds (fun events => hb events _) call fault htried hmem).1
    · cases List.mem_singleton.mp hmem
      cases htried
  cases h with
  | stopped run => exact run.heeds fun events => hb events _
  | unfinished run fault => exact hreturned run
  | looked run => exact hreturned run

theorem AttemptsAt.heeds {start finish : Except Fault Double} {sql : String} {readOnly : Bool}
    {timeout : Int} {r : Except Fault (List Entries)}
    (h : AttemptsAt start finish sql readOnly timeout s events r s') : Heeds events r := by
  intro call fault htried hmem
  refine ⟨?_, h.isRollback⟩
  rcases h.succeeds_or_stopsAt with hquiet | ⟨failure, rfl, hstops⟩
  · cases (hquiet _ hmem).2
  · rw [hstops.eq_of_mem hmem]

/-- Errors of the driver are reported as errors of the service with a text, and with the code and
the detail of the driver's error. -/
def Forwards (report : Fault → Option Fault) : Prop :=
  ∀ error : DriverError, ∃ message, message ≠ "" ∧
    report (.driver error) = some (.service (.database message error.code error.detail))

theorem queryReport_forwards : Forwards queryReport := by
  intro error
  rw [queryReport, queryError]
  split
  · refine ⟨_, trimmed_ne_empty fun hblank => ?_, rfl⟩
    cases hblank 'W' (by simp)
  · exact ⟨_, by decide, rfl⟩
  · refine ⟨_, ?_, rfl⟩
    split
    · decide
    · next hmessage => exact fun hempty => hmessage (by rw [hempty]; rfl)

theorem tablesReport_forwards : Forwards tablesReport :=
  fun _ => ⟨_, by decide, rfl⟩

theorem detailsReport_forwards (schema table : String) :
    Forwards (detailsReport schema table) :=
  fun _ => ⟨_, by simp, rfl⟩

end Service

/-- The calls end with a rollback, which is the only one, and the return of the connection. -/
def EndsRolledBack (events : List Event) : Prop :=
  ∃ before pool, events = before ++ [⟨.rollback, .done⟩, ⟨.giveBack pool, .done⟩] ∧
    Service.calls Call.isRollback before = 0

/-- If one call fails, its error surfaces: the result is an error of the service that translates
it, and the calls end rolled back. -/
def Surfaced (events : List Event) (r : Except Fault α) : Prop :=
  ∀ error, FailsOnce error events →
    (∃ message, message ≠ "" ∧
      r = .error (.service (.database message error.code error.detail))) ∧ EndsRolledBack events

namespace Surfaced

variable {events : List Event} {r : Except Fault α}

theorem nil : Surfaced [] r := fun _ hfails => absurd hfails FailsOnce.not_nil

theorem map (h : Surfaced events r) (f : α → β) : Surfaced events (r.map f) := by
  intro error hfails
  obtain ⟨⟨message, hmessage, rfl⟩, hends⟩ := h error hfails
  exact ⟨⟨message, hmessage, rfl⟩, hends⟩

theorem of_error {fault : Fault} (h : Surfaced events (.error fault : Except Fault α)) :
    Surfaced events (.error fault : Except Fault β) := by
  intro error hfails
  obtain ⟨⟨message, hmessage, hfault⟩, hends⟩ := h error hfails
  cases hfault
  exact ⟨⟨message, hmessage, rfl⟩, hends⟩

theorem of_ok {a : α} (h : Surfaced events (.ok a)) (r : Except Fault β) :
    Surfaced events r := by
  intro error hfails
  obtain ⟨⟨message, -, hfault⟩, -⟩ := h error hfails
  cases hfault

end Surfaced

namespace Act

variable {σ : Type} {act : Act σ α}

/-- A call that fails alone surfaces, whatever the world replies. -/
def Surfaces (act : Act σ α) : Prop := act.Shows fun _ events r _ => Surfaced events r

namespace Surfaces

/-- What surfaces behind an action without calls surfaces behind nothing. -/
theorem silent_bind {f : α → Act σ β}
    (h : act.KeepsStage fun stage => stage.world.journal) (hf : ∀ a, (f a).Surfaces) :
    (act >>= f).Surfaces := by
  intro stage
  have hkept := h stage
  rw [start_bind]
  rcases hact : act.start stage with ⟨result, mid⟩
  simp only [hact] at hkept
  cases result with
  | error fault => exact ⟨[], hkept.trans (List.append_nil _).symm, .nil⟩
  | ok a =>
    obtain ⟨events, hjournal, hsurfaced⟩ := hf a mid
    exact ⟨events, hjournal.trans (congrArg (· ++ events) hkept), hsurfaced⟩

theorem bind_silent {f : α → Act σ β} (h : act.Surfaces)
    (hf : ∀ a, (f a).KeepsStage fun stage => stage.world.journal) : (act >>= f).Surfaces := by
  intro stage
  obtain ⟨events, hjournal, hsurfaced⟩ := h stage
  rw [start_bind]
  rcases hact : act.start stage with ⟨result, mid⟩
  simp only [hact] at hjournal hsurfaced
  cases result with
  | error fault => exact ⟨events, hjournal, hsurfaced.of_error⟩
  | ok a => exact ⟨events, (hf a mid).trans hjournal, hsurfaced.of_ok _⟩

/-- A handler without calls has to pass on what surfaced. -/
theorem recover {handle : Fault → Act σ α} (h : act.Surfaces)
    (hsilent : ∀ fault, (handle fault).KeepsStage fun stage => stage.world.journal)
    (hpass : ∀ message code detail, handle (.service (.database message code detail)) =
      MonadExcept.throw (.service (.database message code detail))) :
    (act.recover handle).Surfaces := by
  intro stage
  obtain ⟨events, hjournal, hsurfaced⟩ := h stage
  rw [start_recover]
  rcases hact : act.start stage with ⟨result, mid⟩
  simp only [hact] at hjournal hsurfaced
  cases result with
  | ok a => exact ⟨events, hjournal, hsurfaced⟩
  | error fault =>
    refine ⟨events, (hsilent fault mid).trans hjournal, fun error hfails => ?_⟩
    obtain ⟨⟨message, hmessage, hfault⟩, hends⟩ := hsurfaced error hfails
    cases hfault
    refine ⟨⟨message, hmessage, ?_⟩, hends⟩
    simp only [hpass, start_throw]

end Surfaces

end Act

namespace Service

variable {s s' : Service} {events : List Event}

theorem Connects.surfaced {report : Fault → Option Fault} {b : Behaviour Service α}
    {r : Except Fault α} (h : Connects (Reverts report b) s events r s')
    (hreport : Forwards report) (hb : ∀ events r, b s events r s' → Heeds events r) :
    Surfaced events r := by
  intro error hfails
  cases h with
  | closed hpool => exact absurd hfails FailsOnce.not_nil
  | refused hpool fault =>
    obtain ⟨call, hcall, hmem⟩ := hfails.mem
    cases List.mem_singleton.mp hmem
    cases hcall
  | stuck hpool run fault => cases ((hfails.of_cons rfl).of_append rfl).2
  | @used pool _ _ _ hpool run =>
    have hwork := ((hfails.of_cons rfl).of_append rfl).1
    obtain ⟨message, hmessage, hreported⟩ := hreport error
    cases run with
    | settled run hr =>
      obtain ⟨call, hcall, hmem⟩ := hwork.mem
      rw [hr _ (hb _ _ run call _ hcall hmem).1] at hreported
      cases hreported
    | stuck run hfault failure => cases (hwork.of_append rfl).2
    | @rolledBack attempt fault reported _ run hfault =>
      obtain ⟨call, hcall, hmem⟩ := (hwork.of_append rfl).1.mem
      obtain ⟨hresult, hquiet⟩ := hb _ _ run call _ hcall hmem
      cases hresult
      cases hreported.symm.trans hfault
      refine ⟨⟨message, hmessage, rfl⟩, ⟨.checkOut pool, .done⟩ :: attempt, pool, by simp, ?_⟩
      rw [calls_cons, calls_eq_zero hquiet]
      rfl

theorem query_surfaces {sql : String} {readOnly : Bool} : (query sql readOnly).Surfaces :=
  query_timed.mono fun _ _ _ _ h => h.1.surfaced queryReport_forwards fun _ _ run => run.heeds

theorem tables_surfaces : tables.Surfaces :=
  tables_shows.mono fun _ _ _ _ h => h.surfaced tablesReport_forwards fun _ _ looks =>
    looks.heeds fun _ _ fetches => fetches.tries

theorem tableDetails_surfaces {schema table : String} : (tableDetails schema table).Surfaces := by
  refine tableDetails_shows.mono fun s events r s' h => ?_
  cases h with
  | unnamed hname message => exact .nil
  | unquotable hquery => exact .nil
  | looked hschema htable hquery run =>
    have hfound := run.surfaced (detailsReport_forwards schema table) fun _ _ looks =>
      looks.heeds fun _ _ reads => reads.tries
    exact hfound.map _

end Service

end QueryGate
