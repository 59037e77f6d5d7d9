import QueryGate.Database.Service
import QueryGate.Proofs.World.Clock

/-!
# The calls of the database service

The operations of the service are given by the sequences of calls that they can make, with their
endings, the result that goes with them, and the state of the service after them. Here are the
parts that the operations share: a connection is taken out of the pool first and given back last,
a cursor is closed however its statements end, and some faults are rolled back.
-/

namespace QueryGate.Service

open Behaviour

variable {α : Type}

theorem log_shows {level : Log.Level} {message : Text.RawText} :
    (log level message).Shows (ends (.ok ())) := .send

theorem logWith_shows {level : Log.Level} {message : Text.RawText} {fields : Entries} :
    (logWith level message fields).Shows (ends (.ok ())) := .send

/-- The fault of a checkout as it is reported: an exhausted pool is an error of the service. -/
def checkOutFault : Fault → Fault
  | .driver error =>
      if error.kind = .pool then
        .service (.connection ("Connection pool exhausted: " ++ error.message))
      else .driver error
  | fault => fault

/-- A behaviour on a connection of the pool. -/
inductive Connects (b : Behaviour Service α) (s : Service) :
    List Event → Except Fault α → Service → Prop where
  | closed (hpool : s.pool = none) :
      Connects b s []
        (.error (.service (.connection "Database connection pool not initialized"))) s
  | refused {pool : Nat} (hpool : s.pool = some pool) (fault : Fault) :
      Connects b s [⟨.checkOut pool, .raised fault⟩] (.error (checkOutFault fault)) s
  | used {pool : Nat} {events : List Event} {r : Except Fault α} {s' : Service}
      (hpool : s.pool = some pool) (run : b s events r s') :
      Connects b s (⟨.checkOut pool, .done⟩ :: (events ++ [⟨.giveBack pool, .done⟩])) r s'
  | stuck {pool : Nat} {events : List Event} {r : Except Fault α} {s' : Service}
      (hpool : s.pool = some pool) (run : b s events r s') (fault : Fault) :
      Connects b s (⟨.checkOut pool, .done⟩ :: (events ++ [⟨.giveBack pool, .raised fault⟩]))
        (.error fault) s'

inductive UsesCursor (named : Bool) (b : Behaviour Service α) (s : Service) :
    List Event → Except Fault α → Service → Prop where
  | refused (fault : Fault) :
      UsesCursor named b s [⟨.openCursor named, .raised fault⟩] (.error fault) s
  | used {events : List Event} {r : Except Fault α} {s' : Service} (run : b s events r s') :
      UsesCursor named b s (⟨.openCursor named, .done⟩ :: (events ++ [⟨.closeCursor, .done⟩])) r s'

theorem Connects.mono {b b' : Behaviour Service α}
    (himp : ∀ s events r s', b s events r s' → b' s events r s') {s s' : Service}
    {events : List Event} {r : Except Fault α} (h : Connects b s events r s') :
    Connects b' s events r s' := by
  cases h with
  | closed hpool => exact .closed hpool
  | refused hpool fault => exact .refused hpool fault
  | used hpool run => exact .used hpool (himp _ _ _ _ run)
  | stuck hpool run fault => exact .stuck hpool (himp _ _ _ _ run) fault

private theorem checkOut_shows (pool : Nat) :
    (Act.recover (Act.checkOut pool) fun
      | .driver error =>
          if error.kind = .pool then
            throw (.service (.connection ("Connection pool exhausted: " ++ error.message)))
          else throw (.driver error)
      | fault => throw fault : Action Unit).ShowsBy Stage.timed
      (Handles (Calls (.checkOut pool) Act.finished) fun fault =>
        ends (.error (checkOutFault fault))) := by
  refine .recover (.perform_timed fun _ _ => rfl) ?_
  intro fault
  cases fault with
  | driver error =>
    by_cases hkind : error.kind = .pool
    · simp only [checkOutFault, hkind, if_true]
      exact .throw
    · simp only [checkOutFault, hkind, if_false]
      exact .throw
  | _ => exact .throw

/-- Work on a connection finds the clock as it was before the checkout. -/
theorem withConnection_timed {act : Action α} {b : Behaviour (Service × Readings) α}
    (h : act.ShowsBy Stage.timed b) :
    (withConnection act).ShowsBy Stage.timed fun s events r s' =>
      Connects (fun service events r service' => b (service, s.2) events r (service', s'.2))
        s.1 events r s'.1 := by
  refine .bind_self_timed fun service => ?_
  cases hpool : service.pool with
  | none =>
    refine (Act.ShowsBy.bind_ends .send_timed .throw).mono ?_
    rintro s events r s' ⟨rfl, rfl, rfl⟩ rfl
    exact .closed hpool
  | some pool =>
    have hgiveBack : (Act.giveBack pool : Action Unit).ShowsBy Stage.timed
        (Calls (.giveBack pool) Act.finished) := .perform_timed fun _ _ => rfl
    refine ((checkOut_shows pool).bind fun _ => h.ensuring hgiveBack).mono ?_
    rintro ⟨s, readings⟩ events r ⟨s', readings'⟩ hb rfl
    cases hb with
    | stopped first =>
      cases first with
      | handled first next =>
        obtain ⟨rfl, hfault, hs'⟩ := next
        cases hfault
        cases first
        cases hs'
        exact .refused hpool _
    | continued first next =>
      cases first with
      | passed first =>
        cases first
        cases next with
        | kept run back => cases back; exact .used hpool run
        | lost run back => cases back; exact .stuck hpool run _
      | handled first next => cases next.2.1

theorem withConnection_shows {act : Action α} {b : Behaviour Service α} (h : act.Shows b) :
    (withConnection act).Shows (Connects b) :=
  Act.shows_iff_showsBy_timed.mpr (withConnection_timed (Act.shows_iff_showsBy_timed.mp h))

theorem withCursor_shows {named : Bool} {act : Action α} {b : Behaviour Service α}
    (h : act.Shows b) : (withCursor named act).Shows (UsesCursor named b) := by
  refine (Act.Shows.bind .perform fun _ => h.ensuring .enter).mono ?_
  intro s events r s' hb
  cases hb with
  | stopped first => cases first; exact .refused _
  | continued first next =>
    cases first
    cases next with
    | kept run closed =>
      obtain ⟨rfl, -, rfl⟩ := closed
      exact .used run
    | lost run closed => cases closed.2.1

theorem withCursor_keepsClock {named : Bool} {act : Action α}
    (h : act.KeepsStage Stage.clock) : (withCursor named act).KeepsStage Stage.clock := by
  have hopen : (Act.openCursor named : Action Unit).KeepsStage Stage.clock :=
    .perform_clock fun _ _ => rfl
  exact .bind hopen fun _ => .ensuring h .enter_clock

/-- A transaction whose fault, if it is one that `report` takes, is rolled back and then given as
the report of it. A rollback that fails leaves its own fault. -/
inductive Reverts {τ : Type} (report : Fault → Option Fault) (b : Behaviour τ α) (s : τ) :
    List Event → Except Fault α → τ → Prop where
  | settled {events : List Event} {r : Except Fault α} {s' : τ} (run : b s events r s')
      (hr : ∀ fault, r = .error fault → report fault = none) : Reverts report b s events r s'
  | rolledBack {events : List Event} {fault reported : Fault} {s' : τ}
      (run : b s events (.error fault) s') (hreport : report fault = some reported) :
      Reverts report b s (events ++ [⟨.rollback, .done⟩]) (.error reported) s'
  | stuck {events : List Event} {fault reported : Fault} {s' : τ}
      (run : b s events (.error fault) s') (hreport : report fault = some reported)
      (failure : Fault) :
      Reverts report b s (events ++ [⟨.rollback, .raised failure⟩]) (.error failure) s'

/-- What a handler shows of a fault. -/
def reverting {τ : Type} (report : Fault → Option Fault) (fault : Fault) : Behaviour τ α :=
  match report fault with
  | none => ends (.error fault)
  | some reported => Then (Calls .rollback Act.finished) fun _ => ends (.error reported)

theorem reverts_of_handles {τ : Type} {report : Fault → Option Fault} {b : Behaviour τ α}
    {s s' : τ} {events : List Event} {r : Except Fault α}
    (h : Handles b (reverting report) s events r s') : Reverts report b s events r s' := by
  cases h with
  | passed run => exact .settled run (by simp)
  | @handled _ _ fault _ _ _ run next =>
    rw [reverting] at next
    cases hreport : report fault with
    | none =>
      rw [hreport] at next
      obtain ⟨rfl, rfl, rfl⟩ := next
      rw [List.append_nil]
      refine .settled run ?_
      rintro _ ⟨⟩
      exact hreport
    | some reported =>
      rw [hreport] at next
      cases next with
      | stopped rollback => cases rollback; exact .stuck run hreport _
      | continued rollback next =>
        cases rollback
        obtain ⟨rfl, rfl, rfl⟩ := next
        exact .rolledBack run hreport

theorem Reverts.mono {τ υ : Type} {report : Fault → Option Fault} {b : Behaviour τ α}
    {b' : Behaviour υ α} {s s' : τ} {t t' : υ} {events : List Event} {r : Except Fault α}
    (himp : ∀ events r, b s events r s' → b' t events r t')
    (h : Reverts report b s events r s') : Reverts report b' t events r t' := by
  cases h with
  | settled run hr => exact .settled (himp _ _ run) hr
  | rolledBack run hreport => exact .rolledBack (himp _ _ run) hreport
  | stuck run hreport failure => exact .stuck (himp _ _ run) hreport failure

/-- What holds of the calls of a behaviour, and of calls with a rollback behind them, holds of the
calls of a transaction. -/
theorem Reverts.calls_have {τ : Type} {report : Fault → Option Fault} {b : Behaviour τ α}
    {s s' : τ} {events : List Event} {r : Except Fault α} {P : List Event → Prop}
    (h : Reverts report b s events r s') (hb : ∀ events r, b s events r s' → P events)
    (hrollback : ∀ events ending, P events → P (events ++ [⟨.rollback, ending⟩])) : P events := by
  cases h with
  | settled run hr => exact hb _ _ run
  | rolledBack run hreport => exact hrollback _ _ (hb _ _ run)
  | stuck run hreport failure => exact hrollback _ _ (hb _ _ run)

/-- The pool is closed if one is open. A pool that cannot be closed stays the service's own. -/
inductive Closes (s : Service) : List Event → Except Fault Unit → Service → Prop where
  | idle (hpool : s.pool = none) : Closes s [] (.ok ()) s
  | closed {pool : Nat} (hpool : s.pool = some pool) :
      Closes s [⟨.closePool pool, .done⟩] (.ok ()) { s with pool := none, connected := false }
  | failed {pool : Nat} (hpool : s.pool = some pool) (fault : Fault) :
      Closes s [⟨.closePool pool, .raised fault⟩] (.error fault) s

theorem close_shows : close.Shows Closes := by
  refine .bind_self fun s₀ => ?_
  cases hpool : s₀.pool with
  | none =>
    refine Act.Shows.pure.mono ?_
    rintro s events r s' ⟨rfl, rfl, rfl⟩ rfl
    exact .idle hpool
  | some pool =>
    refine (Act.Shows.bind .perform fun _ => Act.Shows.update.bind fun _ => log_shows).mono ?_
    rintro s events r s' hb rfl
    cases hb with
    | stopped first => cases first; exact .failed hpool _
    | continued first next =>
      cases first
      cases next with
      | stopped update => cases update.2.1
      | continued update next =>
        obtain ⟨rfl, -, rfl⟩ := update
        obtain ⟨rfl, rfl, rfl⟩ := next
        exact .closed hpool

end QueryGate.Service
