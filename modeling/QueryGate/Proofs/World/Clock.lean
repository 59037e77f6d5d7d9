import QueryGate.Proofs.World.Confining
import QueryGate.Proofs.World.Keeping

/-!
# The clocks

Readings of the clock are not entered into the journal, but what an action does may depend on
them. Here an action is seen together with the readings that are still to come: it takes them one
after the other, and everything that is not a reading leaves them as they are.

The calendar clock is read from the script too, by nothing but the reports of health. An action
that does not read it runs in the same way whatever it will show, and leaves its readings to what
follows.
-/

namespace QueryGate

open QueryGate.Number QueryGate.Calendar

variable {σ α β : Type}

/-- The readings that a clock will give, counted from the next one. -/
abbrev Readings := Nat → Except Fault Double

/-- Behind the end of its queue the clock shows zero. -/
def Script.readings (script : Script) : Readings :=
  fun n => (script.clock[n]?.join).getD (.ok Double.zero)

def Readings.after (readings : Readings) (taken : Nat) : Readings := fun n => readings (n + taken)

@[simp] theorem Readings.after_zero (readings : Readings) : readings.after 0 = readings := rfl

@[simp] theorem Readings.after_after (readings : Readings) (taken more : Nat) :
    (readings.after taken).after more = readings.after (more + taken) := by
  funext n
  simp [after, Nat.add_assoc]

@[simp] theorem Readings.after_apply (readings : Readings) (taken n : Nat) :
    readings.after taken n = readings (n + taken) := rfl

def Stage.clock (stage : Stage σ) : List (Reply Double) := stage.world.script.clock

/-- The state together with the readings that are still to come. -/
def Stage.timed (stage : Stage σ) : σ × Readings := (stage.self, stage.world.script.readings)

theorem Stage.timed_congr {stage stage' : Stage σ} (h : stage'.clock = stage.clock) :
    stage'.timed.2 = stage.timed.2 := by
  have hclock : stage'.world.script.clock = stage.world.script.clock := h
  funext n
  simp only [timed, Script.readings, hclock]

namespace Act

namespace KeepsStage

theorem send_clock {record : Log.Record} :
    (Act.send record : Act σ Unit).KeepsStage Stage.clock := fun _ => rfl

theorem enter_clock {call : Call} {ending : Ending} :
    (Act.enter call ending : Act σ Unit).KeepsStage Stage.clock := fun _ => rfl

theorem perform_clock {call : Call} {usual : α} {ending : α → Ending}
    {queue : Script → List (Reply α)} {keep : List (Reply α) → Script → Script}
    (h : ∀ rest script, (keep rest script).clock = script.clock) :
    (Act.perform call usual ending queue keep : Act σ α).KeepsStage Stage.clock :=
  .perform (fun stage => h _ stage.world.script) fun _ => enter_clock

theorem execute_clock {sql : String} :
    (Act.execute sql : Act σ Unit).KeepsStage Stage.clock := by
  unfold Act.execute Act.executeWith
  exact perform_clock fun _ _ => rfl

end KeepsStage

theorem shows_iff_showsBy_timed {act : Act σ α} {b : Behaviour σ α} :
    act.Shows b ↔ act.ShowsBy Stage.timed fun s events r s' => b s.1 events r s'.1 := .rfl

theorem Shows.timed {act : Act σ α} {b : Behaviour σ α} (h : act.Shows b)
    (hclock : act.KeepsStage Stage.clock) :
    act.ShowsBy Stage.timed fun s events r s' => b s.1 events r s'.1 ∧ s'.2 = s.2 := by
  intro stage
  obtain ⟨events, hjournal, hb⟩ := h stage
  exact ⟨events, hjournal, hb, Stage.timed_congr (hclock stage)⟩

theorem Shows.timed_ends {act : Act σ α} {result : Except Fault α}
    (h : act.Shows (Behaviour.ends result)) (hclock : act.KeepsStage Stage.clock) :
    act.ShowsBy Stage.timed (Behaviour.ends result) := by
  refine (h.timed hclock).mono ?_
  rintro s events r s' ⟨⟨rfl, rfl, hself⟩, hreadings⟩
  exact ⟨rfl, rfl, Prod.ext hself hreadings⟩

namespace ShowsBy

theorem perform_timed {call : Call} {usual : α} {ending : α → Ending}
    {queue : Script → List (Reply α)} {keep : List (Reply α) → Script → Script}
    (h : ∀ rest script, (keep rest script).clock = script.clock) :
    (Act.perform call usual ending queue keep : Act σ α).ShowsBy Stage.timed
      (Behaviour.Calls call ending) := by
  refine (Shows.perform.timed (KeepsStage.perform_clock h)).mono ?_
  rintro ⟨s, readings⟩ events r ⟨s', readings'⟩ ⟨hcalls, hreadings⟩
  obtain rfl : readings' = readings := hreadings
  cases hcalls with
  | returned a => exact .returned a
  | raised fault => exact .raised fault

theorem send_timed {record : Log.Record} :
    (Act.send record : Act σ Unit).ShowsBy Stage.timed (Behaviour.ends (.ok ())) :=
  Shows.send.timed_ends KeepsStage.send_clock

/-- An action on a part of the state takes its readings from the same clock. -/
theorem onPart_timed {τ : Type} {part : τ} {putBack : τ → σ → σ} {act : Act τ α}
    {b : Behaviour (τ × Readings) α} (h : act.ShowsBy Stage.timed b) :
    (Act.onPart part putBack act).ShowsBy Stage.timed fun s events r s' =>
      ∃ part', b (part, s.2) events r (part', s'.2) ∧ s'.1 = putBack part' s.1 := by
  intro stage
  obtain ⟨events, hjournal, hb⟩ := h ⟨part, stage.world⟩
  exact ⟨events, hjournal, _, hb, rfl⟩

theorem bind_self_timed {f : σ → Act σ β} {k : Behaviour (σ × Readings) β}
    (hf : ∀ s, (f s).ShowsBy Stage.timed fun s₀ events r s' => s₀.1 = s → k s₀ events r s') :
    (Act.self >>= f).ShowsBy Stage.timed k := by
  intro stage
  obtain ⟨events, hjournal, hk⟩ := hf stage.self stage
  exact ⟨events, hjournal, hk rfl⟩

theorem readClock : (Act.readClock : Act σ Double).ShowsBy Stage.timed fun s events r s' =>
    events = [] ∧ r = s.2 0 ∧ s' = (s.1, s.2.after 1) := by
  intro stage
  have htail (self : σ) (world : World) (h : world.script.clock = stage.clock.tail) :
      (⟨self, world⟩ : Stage σ).timed = (self, stage.timed.2.after 1) := by
    refine Prod.ext rfl ?_
    funext n
    simp [Stage.timed, Script.readings, h, Stage.clock]
  have hhead : stage.timed.2 0 = (stage.clock.head?.join).getD (.ok Double.zero) := by
    simp [Stage.timed, Script.readings, Stage.clock, List.head?_eq_getElem?]
  rw [Act.readClock, Act.reading, start_bind, start_world]
  simp only [start_bind, start_updateWorld]
  rw [hhead]
  change ∃ events, _ ∧ events = [] ∧ _
  have hclock : (stage.world.script.clock.head?.join) = stage.clock.head?.join := rfl
  cases hreply : stage.clock.head?.join with
  | none =>
    rw [hclock, hreply]
    exact ⟨[], by simp, rfl, rfl, htail _ _ rfl⟩
  | some reply =>
    rw [hclock, hreply]
    cases reply <;> exact ⟨[], by simp, rfl, rfl, htail _ _ rfl⟩

end ShowsBy

end Act

variable {σ α β : Type}

def World.withNow (world : World) (now : List (Reply DateTime)) : World :=
  { world with script := { world.script with now := now } }

/-- The same stage with other readings of the calendar clock to come. -/
def Stage.withNow (stage : Stage σ) (now : List (Reply DateTime)) : Stage σ :=
  { stage with world := stage.world.withNow now }

/-- The calendar clock can always be read. -/
def Script.ShowsTime (script : Script) : Prop := AllowedReplies (fun _ => False) script.now

namespace Act

/-- What the calendar clock will show makes no difference to the action. -/
def Timeless (act : Act σ α) : Prop :=
  ∀ stage now, act.start (stage.withNow now) =
    ((act.start stage).1, (act.start stage).2.withNow now)

namespace Timeless

variable {act : Act σ α}

theorem now_eq (h : act.Timeless) (stage : Stage σ) :
    (act.start stage).2.world.script.now = stage.world.script.now :=
  congrArg (·.2.world.script.now) (h stage stage.world.script.now)

theorem throw {fault : Fault} : (MonadExcept.throw fault : Act σ α).Timeless := fun _ _ => rfl

theorem self : (Act.self : Act σ σ).Timeless := fun _ _ => rfl

theorem update {change : σ → σ} : (Act.update change).Timeless := fun _ _ => rfl

theorem send {record : Log.Record} : (Act.send record : Act σ Unit).Timeless := fun _ _ => rfl

theorem enter {call : Call} {ending : Ending} :
    (Act.enter call ending : Act σ Unit).Timeless := fun _ _ => rfl

theorem bind {f : α → Act σ β} (h : act.Timeless) (hf : ∀ a, (f a).Timeless) :
    (act >>= f).Timeless := by
  intro stage now
  rw [start_bind, start_bind, h stage now]
  rcases act.start stage with ⟨result, mid⟩
  cases result with
  | error fault => rfl
  | ok a => exact hf a mid now

theorem recover {handle : Fault → Act σ α} (h : act.Timeless)
    (hhandle : ∀ fault, (handle fault).Timeless) : (act.recover handle).Timeless := by
  intro stage now
  rw [start_recover, start_recover, h stage now]
  rcases act.start stage with ⟨result, mid⟩
  cases result with
  | error fault => exact hhandle fault mid now
  | ok a => rfl

theorem ensuring {last : Act σ Unit} (h : act.Timeless) (hlast : last.Timeless) :
    (act.ensuring last).Timeless := by
  intro stage now
  rw [start_ensuring, start_ensuring, h stage now]
  rcases act.start stage with ⟨result, mid⟩
  simp only [hlast mid now]
  rcases last.start mid with ⟨ending, final⟩
  cases ending <;> rfl

/-- A call takes its reply from another queue than the calendar clock. -/
theorem perform {call : Call} {usual : α} {ending : α → Ending}
    {queue : Script → List (Reply α)} {keep : List (Reply α) → Script → Script}
    (hqueue : ∀ script now, queue { script with now := now } = queue script)
    (hkeep : ∀ rest script now,
      keep rest { script with now := now } = { keep rest script with now := now }) :
    (Act.perform call usual ending queue keep : Act σ α).Timeless := by
  intro stage now
  have hqueue' : queue (stage.withNow now).world.script = queue stage.world.script := hqueue _ now
  have hkeep' : keep (queue stage.world.script).tail (stage.withNow now).world.script =
      { keep (queue stage.world.script).tail stage.world.script with now := now } := hkeep _ _ now
  simp only [Act.perform, start_bind, start_world, start_updateWorld, hqueue', hkeep']
  cases (queue stage.world.script).head?.join with
  | none => rfl
  | some reply => cases reply <;> rfl

theorem execute {sql : String} : (Act.execute sql : Act σ Unit).Timeless := by
  unfold Act.execute Act.executeWith
  exact perform (fun _ _ => rfl) fun _ _ _ => rfl

end Timeless

theorem start_readNow {stage : Stage σ} (h : stage.world.script.ShowsTime) :
    ∃ time, Act.readNow.start stage =
      (.ok time, stage.withNow stage.world.script.now.tail) := by
  simp only [Act.readNow, Act.reading, start_bind, start_world, start_updateWorld]
  cases hreply : stage.world.script.now.head?.join with
  | none => exact ⟨_, rfl⟩
  | some reply =>
    cases reply with
    | ok time => exact ⟨time, rfl⟩
    | error fault =>
      exact (h fault (List.mem_of_mem_head? (Option.join_eq_some_iff.mp hreply))).elim

end Act

end QueryGate
