import QueryGate.Proofs.Database.Lookups
import QueryGate.Proofs.World.Clock

/-!
# What a probe tells

A probe passes on no fault of its own making: where every call succeeds or raises an error of the
driver, it returns exactly if a pool is open and all of its calls succeed, the return of the
connection included. It notes in the state of the service whether it returned, and it changes
nothing else there.
-/

namespace QueryGate

open QueryGate.Text

variable {σ α β : Type}

def AllSucceeded (events : List Event) : Prop := ∀ event ∈ events, event.ending.succeeded = true

@[simp] theorem allSucceeded_nil : AllSucceeded [] := by simp [AllSucceeded]

@[simp] theorem allSucceeded_cons {event : Event} {events : List Event} :
    AllSucceeded (event :: events) ↔ event.ending.succeeded = true ∧ AllSucceeded events :=
  List.forall_mem_cons

@[simp] theorem allSucceeded_append {events more : List Event} :
    AllSucceeded (events ++ more) ↔ AllSucceeded events ∧ AllSucceeded more :=
  List.forall_mem_append

/-- The state stays as it is, and a result is returned exactly if all calls succeed. -/
structure Behaviour.Faithful (s : σ) (events : List Event) (r : Except Fault α) (s' : σ) :
    Prop where
  same : s' = s
  returns_iff : (∃ a, r = .ok a) ↔ AllSucceeded events

namespace Act.Shows

open Behaviour

variable {act : Act σ α}

theorem faithful_of_calls {call : Call} {ending : α → Ending} (h : act.Shows (Calls call ending))
    (hending : ∀ a, (ending a).succeeded = true) : act.Shows Faithful := by
  refine h.mono fun s events r s' hb => ?_
  cases hb with
  | returned a => exact ⟨rfl, by simp [hending a]⟩
  | raised fault => exact ⟨rfl, by simp [Ending.succeeded]⟩

theorem faithful_perform {call : Call} {usual : Unit} {queue : Script → List (Reply Unit)}
    {keep : List (Reply Unit) → Script → Script} :
    (Act.perform call usual Act.finished queue keep : Act σ Unit).Shows Faithful :=
  faithful_of_calls perform fun _ => rfl

theorem faithful_closeCursor : (Act.closeCursor : Act σ Unit).Shows Faithful := by
  refine enter.mono ?_
  rintro s events r s' ⟨rfl, rfl, rfl⟩
  exact ⟨rfl, by simp [Ending.succeeded]⟩

theorem faithful_bind {f : α → Act σ β} (h : act.Shows Faithful) (hf : ∀ a, (f a).Shows Faithful) :
    (act >>= f).Shows Faithful := by
  refine (h.bind hf).mono fun s events r s' hb => ?_
  cases hb with
  | stopped first => exact ⟨first.same, by simpa using first.returns_iff⟩
  | continued first next =>
    have hfirst := first.returns_iff.mp ⟨_, rfl⟩
    exact ⟨next.same.trans first.same, by simpa [hfirst] using next.returns_iff⟩

theorem faithful_ensuring {last : Act σ Unit} (h : act.Shows Faithful)
    (hlast : last.Shows Faithful) : (act.ensuring last).Shows Faithful := by
  refine (h.ensuring hlast).mono fun s events r s' hb => ?_
  cases hb with
  | kept first next =>
    have hnext := next.returns_iff.mp ⟨_, rfl⟩
    exact ⟨next.same.trans first.same, by simpa [hnext] using first.returns_iff⟩
  | lost first next =>
    have hnext : ¬ AllSucceeded _ := fun h => by simpa using next.returns_iff.mpr h
    exact ⟨next.same.trans first.same, by simp [hnext]⟩

end Act.Shows

def Fault.FromDriver (fault : Fault) : Prop := ∃ error, fault = .driver error

/-- Every call of a probe succeeds or raises an error of the driver. -/
structure Script.FromDriver (script : Script) : Prop where
  checkOut : AllowedReplies Fault.FromDriver script.checkOut
  giveBack : AllowedReplies Fault.FromDriver script.giveBack
  openCursor : AllowedReplies Fault.FromDriver script.openCursor
  execute : AllowedReplies Fault.FromDriver script.execute
  fetchOne : AllowedReplies Fault.FromDriver script.fetchOne
  rollback : AllowedReplies Fault.FromDriver script.rollback

namespace Service

open Behaviour

/-- What a probe does on a connection. -/
def look : Action Unit := do
  withCursor false do
    Act.execute probeQuery
    Act.fetchOne
  Act.rollback

theorem look_faithful : look.Shows Faithful := by
  have hread : (do Act.execute probeQuery; Act.fetchOne : Action Unit).Shows Faithful := by
    rw [Act.execute]
    exact .faithful_bind .faithful_perform fun _ => .faithful_perform
  have hcursor : (withCursor false (do Act.execute probeQuery; Act.fetchOne)).Shows Faithful :=
    .faithful_bind .faithful_perform fun _ => .faithful_ensuring hread .faithful_closeCursor
  exact .faithful_bind hcursor fun _ => .faithful_perform

theorem look_confined : look.Confined Script.FromDriver Fault.FromDriver := by
  have hread : (do Act.execute probeQuery; Act.fetchOne : Action Unit).Confined
      Script.FromDriver Fault.FromDriver := by
    rw [Act.execute]
    exact .bind (.perform ⟨(·.execute), fun h => { h with execute := h.execute.tail }⟩) fun _ =>
      .perform ⟨(·.fetchOne), fun h => { h with fetchOne := h.fetchOne.tail }⟩
  have hcursor : (withCursor false (do Act.execute probeQuery; Act.fetchOne)).Confined
      Script.FromDriver Fault.FromDriver :=
    .bind (.perform ⟨(·.openCursor), fun h => { h with openCursor := h.openCursor.tail }⟩)
      fun _ => .ensuring hread .enter
  exact .bind hcursor fun _ =>
    .perform ⟨(·.rollback), fun h => { h with rollback := h.rollback.tail }⟩

theorem look_timeless : look.Timeless := by
  have hread : (do Act.execute probeQuery; Act.fetchOne : Action Unit).Timeless :=
    .bind .execute fun _ => .perform (fun _ _ => rfl) fun _ _ _ => rfl
  have hcursor : (withCursor false (do Act.execute probeQuery; Act.fetchOne)).Timeless :=
    .bind (.perform (fun _ _ => rfl) fun _ _ _ => rfl) fun _ => .ensuring hread .enter
  exact .bind hcursor fun _ => .perform (fun _ _ => rfl) fun _ _ _ => rfl

theorem Connects.returns_iff {s s' : Service} {events : List Event} {r : Except Fault α}
    (h : Connects Faithful s events r s') :
    s' = s ∧ ((∃ a, r = .ok a) ↔ s.pool.isSome = true ∧ AllSucceeded events) := by
  cases h with
  | closed hpool => exact ⟨rfl, by simp [hpool]⟩
  | refused hpool fault => exact ⟨rfl, by simp [Ending.succeeded]⟩
  | used hpool run => exact ⟨run.same, by simp [hpool, Ending.succeeded, run.returns_iff]⟩
  | stuck hpool run fault => exact ⟨run.same, by simp [Ending.succeeded]⟩

/-- A connection adds to the faults of the driver only those that a probe reports as well. -/
theorem withConnection_confined {act : Action α}
    (h : act.Confined Script.FromDriver Fault.FromDriver) :
    (withConnection act).Confined Script.FromDriver fun fault => (probeReport fault).isSome := by
  have hreported (fault : Fault) (hfault : fault.FromDriver) : (probeReport fault).isSome := by
    obtain ⟨error, rfl⟩ := hfault
    rfl
  refine .bind .self fun service => ?_
  cases service.pool with
  | none => exact .bind .send fun _ => .throw rfl
  | some pool =>
    have hcheckOut : (Act.checkOut pool : Action Unit).Confined Script.FromDriver
        Fault.FromDriver :=
      .perform ⟨(·.checkOut), fun h => { h with checkOut := h.checkOut.tail }⟩
    have hgiveBack : (Act.giveBack pool : Action Unit).Confined Script.FromDriver
        Fault.FromDriver :=
      .perform ⟨(·.giveBack), fun h => { h with giveBack := h.giveBack.tail }⟩
    refine .bind (hcheckOut.recover ?_) fun _ => (h.ensuring hgiveBack).mono hreported
    rintro _ ⟨error, rfl⟩
    exact iteInduction (fun _ => .throw rfl) fun _ => .throw rfl

theorem withConnection_timeless {act : Action α} (h : act.Timeless) :
    (withConnection act).Timeless := by
  refine .bind .self fun service => ?_
  cases service.pool with
  | none => exact .bind .send fun _ => .throw
  | some pool =>
    refine .bind (.recover (.perform (fun _ _ => rfl) fun _ _ _ => rfl) fun fault => ?_) fun _ =>
      .ensuring h (.perform (fun _ _ => rfl) fun _ _ _ => rfl)
    cases fault with
    | driver error => exact iteInduction (fun _ => .throw) fun _ => .throw
    | _ => exact .throw

/-- A probe ends its look with a report, if the look failed. -/
def reportUnreached : Fault → Action Unit
  | .driver error => unreachable error.code (some (trimmed error.message))
  | .service (.connection message) => unreachable none (some message)
  | fault => throw fault

theorem probe_eq : probe = (do
    Act.recover (withConnection look) reportUnreached
    Act.update fun service => { service with connected := true }
    log .info "Database connection established successfully") := rfl

theorem start_reportUnreached {fault reported : Fault} (h : probeReport fault = some reported)
    (stage : Stage Service) : (reportUnreached fault).start stage =
      (.error reported, { stage with self := { stage.self with connected := false } }) := by
  cases fault with
  | driver error => cases h; rfl
  | service error => cases error <;> cases h; rfl
  | _ => cases h

/-- The fault of a probe that did not reach the database. -/
def Unreached (fault : Fault) : Prop :=
  ∃ code detail, fault = .service (.database "Failed to connect to database" code detail)

theorem Unreached.isException {fault : Fault} (h : Unreached fault) : fault.isException = true := by
  obtain ⟨code, detail, rfl⟩ := h
  rfl

theorem Unreached.message {fault : Fault} (h : Unreached fault) :
    fault.message = "Failed to connect to database" := by
  obtain ⟨code, detail, rfl⟩ := h
  rfl

theorem unreached_of_probeReport {fault reported : Fault}
    (h : probeReport fault = some reported) : Unreached reported := by
  cases fault with
  | driver error => cases h; exact ⟨_, _, rfl⟩
  | service error => cases error <;> cases h; exact ⟨_, _, rfl⟩
  | _ => cases h

/-- From the stage a probe makes these calls, and it returns exactly if it reaches the database;
otherwise it fails and says so. The service notes which of the two it was. -/
structure ProbedFrom (stage : Stage Service) (events : List Event) (reached : Bool) : Prop where
  journal : (probe.start stage).2.world.journal = stage.world.journal ++ events
  reached_iff : reached = true ↔ stage.self.pool.isSome = true ∧ AllSucceeded events
  returns_iff : (probe.start stage).1 = .ok () ↔ reached = true
  fails : reached = false → ∃ fault, (probe.start stage).1 = .error fault ∧ Unreached fault
  noted : (probe.start stage).2.self = { stage.self with connected := reached }

theorem probedFrom (stage : Stage Service) (hscript : stage.world.script.FromDriver) :
    ∃ events reached, ProbedFrom stage events reached := by
  -- Behind the look a probe only notes the outcome and logs, so its calls are those of the look.
  obtain ⟨events, hjournal, hconnects⟩ := withConnection_shows look_faithful stage
  obtain ⟨hsame, hreturns⟩ := hconnects.returns_iff
  have hfaults := (withConnection_confined look_confined stage hscript).1
  rcases hlook : (withConnection look).start stage with ⟨result, mid⟩
  rw [hlook] at hjournal hsame hreturns hfaults
  simp only at hjournal hsame hreturns hfaults
  cases result with
  | ok _ =>
    have hstart : probe.start stage = (.ok (),
        ⟨{ mid.self with connected := true }, { mid.world with
          records := mid.world.records ++ [⟨.info, Log.Channel.database,
            "Database connection established successfully", none, .none⟩] }⟩) := by
      rw [probe_eq, Act.start_bind, Act.start_recover, hlook]
      rfl
    exact ⟨events, true, {
      journal := by rw [hstart]; exact hjournal
      reached_iff := by simpa using hreturns
      returns_iff := by simp [hstart]
      fails := by simp
      noted := by rw [hstart, hsame] }⟩
  | error fault =>
    obtain ⟨reported, hreported⟩ := Option.isSome_iff_exists.mp (hfaults fault rfl)
    have hstart : probe.start stage =
        (.error reported, { mid with self := { mid.self with connected := false } }) := by
      rw [probe_eq, Act.start_bind, Act.start_recover, hlook]
      simp only [start_reportUnreached hreported]
    exact ⟨events, false, {
      journal := by rw [hstart]; exact hjournal
      reached_iff := by simpa using hreturns
      returns_iff := by simp [hstart]
      fails := fun _ => ⟨reported, by rw [hstart], unreached_of_probeReport hreported⟩
      noted := by rw [hstart, hsame] }⟩

theorem probe_timeless : probe.Timeless := by
  refine .bind (.recover (withConnection_timeless look_timeless) fun fault => ?_) fun _ =>
    .bind .update fun _ => .send
  cases fault with
  | driver error => exact .bind .update fun _ => .throw
  | service error => cases error with
    | connection message => exact .bind .update fun _ => .throw
    | _ => exact .throw
  | _ => exact .throw

/-- A probe does not depend on the calendar clock. -/
theorem ProbedFrom.withNow {stage : Stage Service} {events : List Event} {reached : Bool}
    (h : ProbedFrom stage events reached) (now : List (Reply Calendar.DateTime)) :
    ProbedFrom (stage.withNow now) events reached where
  journal := by rw [probe_timeless stage now]; exact h.journal
  reached_iff := h.reached_iff
  returns_iff := by rw [probe_timeless stage now]; exact h.returns_iff
  fails := by rw [probe_timeless stage now]; exact h.fails
  noted := by rw [probe_timeless stage now]; exact h.noted

end Service

end QueryGate
