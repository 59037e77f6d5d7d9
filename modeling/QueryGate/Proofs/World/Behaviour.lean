import Mathlib.Data.List.Basic
import QueryGate.World

/-!
# The behaviour of actions

A behaviour says what is seen of an action: the state it starts in, the calls it enters into the
journal, how it ends, and the state it leaves. The behaviour of a compound action follows from
those of its parts. What the world replies is not part of a behaviour: a call may always return
and may always fail, so that what holds of a behaviour holds under every script.
-/

namespace QueryGate

variable {σ τ α β : Type}

namespace Act

@[simp] theorem start_pure (a : α) (stage : Stage σ) :
    (pure a : Act σ α).start stage = (.ok a, stage) := rfl

@[simp] theorem start_throw (fault : Fault) (stage : Stage σ) :
    (throw fault : Act σ α).start stage = (.error fault, stage) := rfl

@[simp] theorem start_self (stage : Stage σ) :
    (Act.self : Act σ σ).start stage = (.ok stage.self, stage) := rfl

@[simp] theorem start_world (stage : Stage σ) :
    (Act.world : Act σ World).start stage = (.ok stage.world, stage) := rfl

@[simp] theorem start_update (change : σ → σ) (stage : Stage σ) :
    (Act.update change).start stage = (.ok (), { stage with self := change stage.self }) := rfl

@[simp] theorem start_updateWorld (change : World → World) (stage : Stage σ) :
    (Act.updateWorld change : Act σ Unit).start stage =
      (.ok (), { stage with world := change stage.world }) := rfl

theorem start_bind (x : Act σ α) (f : α → Act σ β) (stage : Stage σ) :
    (x >>= f).start stage =
      match x.start stage with
      | (.ok a, stage) => (f a).start stage
      | (.error fault, stage) => (.error fault, stage) := by
  simp only [start, ExceptT.run_bind, StateT.run_bind]
  rcases (ExceptT.run x).run stage with ⟨result | result, stage⟩
  · rfl
  · rfl

theorem start_recover (x : Act σ α) (handle : Fault → Act σ α) (stage : Stage σ) :
    (x.recover handle).start stage =
      match x.start stage with
      | (.ok a, stage) => (.ok a, stage)
      | (.error fault, stage) => (handle fault).start stage := by
  change (tryCatch x handle).run.run stage = _
  simp only [start, ExceptT.run_tryCatch, StateT.run_bind]
  rcases (ExceptT.run x).run stage with ⟨result | result, stage⟩
  · rfl
  · rfl

theorem start_bind_ok {x : Act σ α} {a : α} {stage mid : Stage σ} (h : x.start stage = (.ok a, mid))
    (f : α → Act σ β) : (x >>= f).start stage = (f a).start mid := by
  rw [start_bind, h]

theorem start_bind_error {x : Act σ α} {fault : Fault} {stage mid : Stage σ}
    (h : x.start stage = (.error fault, mid)) (f : α → Act σ β) :
    (x >>= f).start stage = (.error fault, mid) := by
  rw [start_bind, h]

theorem start_recover_ok {x : Act σ α} {a : α} {stage mid : Stage σ}
    (h : x.start stage = (.ok a, mid)) (handle : Fault → Act σ α) :
    (x.recover handle).start stage = (.ok a, mid) := by
  rw [start_recover, h]

theorem start_recover_error {x : Act σ α} {fault : Fault} {stage mid : Stage σ}
    (h : x.start stage = (.error fault, mid)) (handle : Fault → Act σ α) :
    (x.recover handle).start stage = (handle fault).start mid := by
  rw [start_recover, h]

theorem start_ensuring (x : Act σ α) (last : Act σ Unit) (stage : Stage σ) :
    (x.ensuring last).start stage =
      match x.start stage with
      | (result, stage) => match last.start stage with
        | (.ok (), stage) => (result, stage)
        | (.error fault, stage) => (.error fault, stage) := by
  have houtcome : x.outcome.start stage = (.ok (x.start stage).1, (x.start stage).2) := rfl
  rw [ensuring, start_bind, houtcome]
  rcases x.start stage with ⟨result, stage⟩
  simp only [start_bind]
  rcases last.start stage with ⟨ending, stage⟩
  cases ending with
  | error fault => rfl
  | ok _ => cases result <;> rfl

theorem start_onOther (other : τ) (act : Act τ α) (stage : Stage σ) :
    (Act.onOther other act : Act σ (α × τ)).start stage =
      match act.start ⟨other, stage.world⟩ with
      | (result, inner) => (result.map (·, inner.self), ⟨stage.self, inner.world⟩) := rfl

theorem start_onPart (part : τ) (putBack : τ → σ → σ) (act : Act τ α) (stage : Stage σ) :
    (Act.onPart part putBack act).start stage =
      match act.start ⟨part, stage.world⟩ with
      | (result, inner) => (result, ⟨putBack inner.self stage.self, inner.world⟩) := rfl

@[simp] theorem start_send (record : Log.Record) (stage : Stage σ) :
    (Act.send record : Act σ Unit).start stage =
      (.ok (), ⟨stage.self, { stage.world with records := stage.world.records ++ [record] }⟩) := rfl

theorem start_forM_send (records : List Log.Record) (stage : Stage σ) :
    (records.forM Act.send : Act σ Unit).start stage =
      (.ok (), ⟨stage.self, { stage.world with records := stage.world.records ++ records }⟩) := by
  induction records generalizing stage with
  | nil => simp
  | cons record records ih =>
    change (Act.send record >>= fun _ => records.forM Act.send).start stage = _
    rw [start_bind, start_send]
    exact (ih _).trans (by simp)

end Act

/-- What is seen of an action: the state it starts in, its calls, its result, and the state it
leaves. -/
abbrev Behaviour (σ α : Type) := σ → List Event → Except Fault α → σ → Prop

/-- In every run the action appends calls to the journal and shows the behaviour. -/
def Act.Shows (act : Act σ α) (b : Behaviour σ α) : Prop :=
  ∀ stage, ∃ events,
    (act.start stage).2.world.journal = stage.world.journal ++ events ∧
      b stage.self events (act.start stage).1 (act.start stage).2.self

/-- The same where more is seen of the stage, or less, than the state. -/
def Act.ShowsBy (view : Stage σ → τ) (act : Act σ α) (b : Behaviour τ α) : Prop :=
  ∀ stage, ∃ events,
    (act.start stage).2.world.journal = stage.world.journal ++ events ∧
      b (view stage) events (act.start stage).1 (view (act.start stage).2)

namespace Behaviour

/-- No call is made, the state stays, and the result is the given one. -/
def ends (result : Except Fault α) : Behaviour σ α :=
  fun s events r s' => events = [] ∧ r = result ∧ s' = s

/-- No call is made, and the state stays. -/
def quiet : Behaviour σ α := fun s events _ s' => events = [] ∧ s' = s

/-- It fails without a call, and the state stays. -/
def fails : Behaviour σ α := fun s events r s' => events = [] ∧ (∃ fault, r = .error fault) ∧ s' = s

/-- The state is looked up. -/
def looks : Behaviour σ σ := fun s events r s' => events = [] ∧ r = .ok s ∧ s' = s

/-- The state changes without a call. -/
def updates (change : σ → σ) : Behaviour σ Unit :=
  fun s events r s' => events = [] ∧ r = .ok () ∧ s' = change s

/-- One call is made, which returns or fails. -/
inductive Calls (call : Call) (ending : α → Ending) (s : σ) :
    List Event → Except Fault α → σ → Prop where
  | returned (a : α) : Calls call ending s [⟨call, ending a⟩] (.ok a) s
  | raised (fault : Fault) : Calls call ending s [⟨call, .raised fault⟩] (.error fault) s

/-- One behaviour and then another one, unless the first fails. -/
inductive Then (b : Behaviour σ α) (k : α → Behaviour σ β) (s : σ) :
    List Event → Except Fault β → σ → Prop where
  | stopped {events : List Event} {fault : Fault} {s' : σ}
      (first : b s events (.error fault) s') : Then b k s events (.error fault) s'
  | continued {events more : List Event} {a : α} {r : Except Fault β} {mid s' : σ}
      (first : b s events (.ok a) mid) (next : k a mid more r s') :
      Then b k s (events ++ more) r s'

inductive Handles (b : Behaviour σ α) (handle : Fault → Behaviour σ α) (s : σ) :
    List Event → Except Fault α → σ → Prop where
  | passed {events : List Event} {a : α} {s' : σ} (first : b s events (.ok a) s') :
      Handles b handle s events (.ok a) s'
  | handled {events more : List Event} {fault : Fault} {r : Except Fault α} {mid s' : σ}
      (first : b s events (.error fault) mid) (next : handle fault mid more r s') :
      Handles b handle s (events ++ more) r s'

/-- A behaviour with a last part, however the first part ends. A fault of the last part wins. -/
inductive Ensures (b : Behaviour σ α) (last : Behaviour σ Unit) (s : σ) :
    List Event → Except Fault α → σ → Prop where
  | kept {events more : List Event} {r : Except Fault α} {mid s' : σ}
      (first : b s events r mid) (next : last mid more (.ok ()) s') :
      Ensures b last s (events ++ more) r s'
  | lost {events more : List Event} {r : Except Fault α} {fault : Fault} {mid s' : σ}
      (first : b s events r mid) (next : last mid more (.error fault) s') :
      Ensures b last s (events ++ more) (.error fault) s'

end Behaviour

namespace Act.ShowsBy

open Behaviour

variable {view : Stage σ → τ} {act : Act σ α} {b : Behaviour τ α}

theorem mono {b' : Behaviour τ α} (h : act.ShowsBy view b)
    (himp : ∀ s events r s', b s events r s' → b' s events r s') : act.ShowsBy view b' := by
  intro stage
  obtain ⟨events, hjournal, hb⟩ := h stage
  exact ⟨events, hjournal, himp _ _ _ _ hb⟩

theorem pure {a : α} : (Pure.pure a : Act σ α).ShowsBy view (ends (.ok a)) :=
  fun _ => ⟨[], by simp, rfl, rfl, rfl⟩

theorem throw {fault : Fault} :
    (MonadExcept.throw fault : Act σ α).ShowsBy view (ends (.error fault)) :=
  fun _ => ⟨[], by simp, rfl, rfl, rfl⟩

theorem ofExcept {result : Except Fault α} :
    (Act.ofExcept result : Act σ α).ShowsBy view (ends result) := by
  cases result with
  | ok a => exact pure
  | error fault => exact throw

theorem bind {f : α → Act σ β} {k : α → Behaviour τ β} (h : act.ShowsBy view b)
    (hf : ∀ a, (f a).ShowsBy view (k a)) : (act >>= f).ShowsBy view (Then b k) := by
  intro stage
  obtain ⟨events, hjournal, hb⟩ := h stage
  rw [start_bind]
  rcases hact : act.start stage with ⟨result, mid⟩
  simp only [hact] at hjournal hb
  cases result with
  | error fault => exact ⟨events, hjournal, .stopped hb⟩
  | ok a =>
    obtain ⟨more, hmore, hk⟩ := hf a mid
    exact ⟨events ++ more, by rw [hmore, hjournal, List.append_assoc], .continued hb hk⟩

theorem bind_ends {a : α} {f : α → Act σ β} {k : Behaviour τ β}
    (h : act.ShowsBy view (ends (.ok a))) (hf : (f a).ShowsBy view k) :
    (act >>= f).ShowsBy view k := by
  intro stage
  obtain ⟨events, hjournal, rfl, hresult, hview⟩ := h stage
  obtain ⟨more, hmore, hk⟩ := hf (act.start stage).2
  rcases hact : act.start stage with ⟨result, mid⟩
  simp only [hact] at hjournal hresult hview hmore hk
  subst hresult
  rw [start_bind, hact]
  exact ⟨more, by rw [hmore, hjournal, List.append_nil], hview ▸ hk⟩

theorem recover {handle : Fault → Act σ α} {k : Fault → Behaviour τ α} (h : act.ShowsBy view b)
    (hhandle : ∀ fault, (handle fault).ShowsBy view (k fault)) :
    (act.recover handle).ShowsBy view (Handles b k) := by
  intro stage
  obtain ⟨events, hjournal, hb⟩ := h stage
  rw [start_recover]
  rcases hact : act.start stage with ⟨result, mid⟩
  simp only [hact] at hjournal hb
  cases result with
  | ok a => exact ⟨events, hjournal, .passed hb⟩
  | error fault =>
    obtain ⟨more, hmore, hk⟩ := hhandle fault mid
    exact ⟨events ++ more, by rw [hmore, hjournal, List.append_assoc], .handled hb hk⟩

theorem ensuring {last : Act σ Unit} {k : Behaviour τ Unit} (h : act.ShowsBy view b)
    (hlast : last.ShowsBy view k) : (act.ensuring last).ShowsBy view (Ensures b k) := by
  intro stage
  obtain ⟨events, hjournal, hb⟩ := h stage
  rw [start_ensuring]
  rcases hact : act.start stage with ⟨result, mid⟩
  simp only [hact] at hjournal hb
  obtain ⟨more, hmore, hk⟩ := hlast mid
  rcases hfinal : last.start mid with ⟨ending, final⟩
  simp only [hfinal] at hmore hk ⊢
  cases ending with
  | ok _ => exact ⟨events ++ more, by rw [hmore, hjournal, List.append_assoc], .kept hb hk⟩
  | error fault => exact ⟨events ++ more, by rw [hmore, hjournal, List.append_assoc], .lost hb hk⟩

end Act.ShowsBy

namespace Act.Shows

open Behaviour

variable {act : Act σ α} {b : Behaviour σ α}

theorem mono {b' : Behaviour σ α} (h : act.Shows b)
    (himp : ∀ s events r s', b s events r s' → b' s events r s') : act.Shows b' :=
  ShowsBy.mono h himp

theorem pure {a : α} : (Pure.pure a : Act σ α).Shows (ends (.ok a)) := ShowsBy.pure

theorem throw {fault : Fault} : (MonadExcept.throw fault : Act σ α).Shows (ends (.error fault)) :=
  ShowsBy.throw

theorem throw_bind {fault : Fault} {f : β → Act σ α} :
    ((MonadExcept.throw fault : Act σ β) >>= f).Shows (ends (.error fault)) :=
  fun stage => ⟨[], (List.append_nil stage.world.journal).symm, rfl, rfl, rfl⟩

theorem update {change : σ → σ} : (Act.update change).Shows (updates change) :=
  fun _ => ⟨[], by simp, rfl, rfl, rfl⟩

theorem enter {call : Call} {ending : Ending} :
    (Act.enter call ending : Act σ Unit).Shows fun s events r s' =>
      events = [⟨call, ending⟩] ∧ r = .ok () ∧ s' = s :=
  fun _ => ⟨[⟨call, ending⟩], rfl, rfl, rfl, rfl⟩

theorem send {record : Log.Record} : (Act.send record : Act σ Unit).Shows (ends (.ok ())) :=
  fun _ => ⟨[], by simp [Act.send], rfl, rfl, rfl⟩

theorem world :
    (Act.world : Act σ World).Shows fun s events r s' =>
      events = [] ∧ (∃ world, r = .ok world) ∧ s' = s :=
  fun stage => ⟨[], by simp, rfl, ⟨stage.world, rfl⟩, rfl⟩

theorem ofExcept {result : Except Fault α} :
    (Act.ofExcept result : Act σ α).Shows (ends result) := ShowsBy.ofExcept

theorem and {b' : Behaviour σ α} (h : act.Shows b) (h' : act.Shows b') :
    act.Shows fun s events r s' => b s events r s' ∧ b' s events r s' := by
  intro stage
  obtain ⟨events, hjournal, hb⟩ := h stage
  obtain ⟨events', hjournal', hb'⟩ := h' stage
  obtain rfl : events = events' := List.append_cancel_left (hjournal.symm.trans hjournal')
  exact ⟨events, hjournal, hb, hb'⟩

theorem bind {f : α → Act σ β} {k : α → Behaviour σ β} (h : act.Shows b)
    (hf : ∀ a, (f a).Shows (k a)) : (act >>= f).Shows (Then b k) :=
  ShowsBy.bind h hf

theorem bind_ends {a : α} {f : α → Act σ β} {k : Behaviour σ β}
    (h : act.Shows (ends (.ok a))) (hf : (f a).Shows k) : (act >>= f).Shows k :=
  ShowsBy.bind_ends h hf

theorem bind_self {f : σ → Act σ β} {k : Behaviour σ β}
    (hf : ∀ s, (f s).Shows fun s₀ events r s' => s₀ = s → k s₀ events r s') :
    (Act.self >>= f).Shows k := by
  intro stage
  obtain ⟨events, hjournal, hk⟩ := hf stage.self stage
  exact ⟨events, hjournal, hk rfl⟩

theorem recover {handle : Fault → Act σ α} {k : Fault → Behaviour σ α} (h : act.Shows b)
    (hhandle : ∀ fault, (handle fault).Shows (k fault)) :
    (act.recover handle).Shows (Handles b k) :=
  ShowsBy.recover h hhandle

theorem ensuring {last : Act σ Unit} {k : Behaviour σ Unit} (h : act.Shows b)
    (hlast : last.Shows k) : (act.ensuring last).Shows (Ensures b k) :=
  ShowsBy.ensuring h hlast

/-- A scripted call appears in the journal with its reply. -/
theorem perform {call : Call} {usual : α} {ending : α → Ending}
    {queue : Script → List (Reply α)} {keep : List (Reply α) → Script → Script} :
    (Act.perform call usual ending queue keep : Act σ α).Shows (Calls call ending) := by
  intro stage
  rw [Act.perform, start_bind, start_world]
  simp only [start_bind, start_updateWorld]
  cases (queue stage.world.script).head?.join with
  | none => exact ⟨_, rfl, .returned usual⟩
  | some reply =>
    cases reply with
    | ok a => exact ⟨_, rfl, .returned a⟩
    | error fault => exact ⟨_, rfl, .raised fault⟩

theorem execute {sql : String} :
    (Act.execute sql : Act σ Unit).Shows (Calls (.execute sql []) Act.finished) := by
  unfold Act.execute Act.executeWith
  exact perform

theorem onOther {other : τ} {act : Act τ α} {b : Behaviour τ α} (h : act.Shows b) :
    (Act.onOther other act : Act σ (α × τ)).Shows fun s events r s' =>
      ∃ result other', b other events result other' ∧ r = result.map (·, other') ∧ s' = s := by
  intro stage
  obtain ⟨events, hjournal, hb⟩ := h ⟨other, stage.world⟩
  exact ⟨events, hjournal, _, _, hb, rfl, rfl⟩

/-- An action on a part of the state leaves the changed part behind. -/
theorem onPart {part : τ} {putBack : τ → σ → σ} {act : Act τ α} {b : Behaviour τ α}
    (h : act.Shows b) :
    (Act.onPart part putBack act).Shows fun s events r s' =>
      ∃ part', b part events r part' ∧ s' = putBack part' s := by
  intro stage
  obtain ⟨events, hjournal, hb⟩ := h ⟨part, stage.world⟩
  exact ⟨events, hjournal, _, hb, rfl⟩

end Act.Shows

/-- Settings of a server that reads from a local database. -/
def localSettings : Settings where
  databaseUrl := "postgresql://localhost:5432/test"
  allowWrites := false
  maxConnections := 10
  connectTimeout := 30
  statementTimeout := 30000
  debug := false
  rootCertificate := none
  requireTls := false

/-- The driver refuses a connection. -/
def refusal : Fault := .driver ⟨.operational, "refused", none, none⟩

end QueryGate
