import QueryGate.Proofs.World.Behaviour

/-!
# What actions keep

An action keeps a view of its stage if the view shows the same before the action and after it,
however the action ends. A compound action keeps what all of its parts keep, and a call keeps what
neither its entry in the journal nor the taking of its reply changes.

The journal shows which pools were opened and which were closed. Pools are opened under numbers
that were not used before. A call that neither opens nor closes a pool leaves the pools as they
are; so does everything that is no call. What an action leaves in this sense, the state of the
program included, is called lasting here: an action that keeps it has changed nothing but the
script, the journal of other calls, and the log.

The log shows how often an action was begun that announces itself with a record. Calls, readings
and changes of the state send no record, and a record of another kind does not matter: the records
of the kind stay as they are.
-/

namespace QueryGate.Act

variable {σ τ α β υ : Type}

/-- However the action ends, the view of the state is the same as before. -/
def Keeps (view : σ → υ) (act : Act σ α) : Prop :=
  ∀ stage, view (act.start stage).2.self = view stage.self

/-- The same for a view of the whole stage. -/
def KeepsStage (view : Stage σ → υ) (act : Act σ α) : Prop :=
  ∀ stage, view (act.start stage).2 = view stage

namespace KeepsStage

variable {view : Stage σ → υ} {act : Act σ α}

theorem pure {a : α} : (Pure.pure a : Act σ α).KeepsStage view := fun _ => rfl

theorem throw {fault : Fault} : (MonadExcept.throw fault : Act σ α).KeepsStage view := fun _ => rfl

theorem self {view : Stage σ → υ} : (Act.self : Act σ σ).KeepsStage view := fun _ => rfl

theorem world {view : Stage σ → υ} : (Act.world : Act σ World).KeepsStage view := fun _ => rfl

theorem comp {υ' : Type} (h : act.KeepsStage view) (f : υ → υ') : act.KeepsStage (f ∘ view) :=
  fun stage => congrArg f (h stage)

theorem ite {c : Prop} [Decidable c] {other : Act σ α} (h : act.KeepsStage view)
    (hother : other.KeepsStage view) : (if c then act else other).KeepsStage view := by
  by_cases hc : c
  · simpa only [hc, if_true] using h
  · simpa only [hc, if_false] using hother

theorem bind {f : α → Act σ β} (h : act.KeepsStage view) (hf : ∀ a, (f a).KeepsStage view) :
    (act >>= f).KeepsStage view := by
  intro stage
  rw [start_bind]
  have hkept := h stage
  rcases hact : act.start stage with ⟨result, mid⟩
  rw [hact] at hkept
  cases result with
  | error fault => exact hkept
  | ok a => exact (hf a mid).trans hkept

theorem ofExcept {result : Except Fault α} : (Act.ofExcept result : Act σ α).KeepsStage view := by
  cases result with
  | ok a => exact .pure
  | error fault => exact .throw

theorem recover {handle : Fault → Act σ α} (h : act.KeepsStage view)
    (hhandle : ∀ fault, (handle fault).KeepsStage view) :
    (act.recover handle).KeepsStage view := by
  intro stage
  rw [start_recover]
  have hkept := h stage
  rcases hact : act.start stage with ⟨result, mid⟩
  rw [hact] at hkept
  cases result with
  | ok a => exact hkept
  | error fault => exact (hhandle fault mid).trans hkept

theorem ensuring {last : Act σ Unit} (h : act.KeepsStage view) (hlast : last.KeepsStage view) :
    (act.ensuring last).KeepsStage view := by
  intro stage
  rw [start_ensuring]
  have hkept := h stage
  rcases hact : act.start stage with ⟨result, mid⟩
  rw [hact] at hkept
  have hend := hlast mid
  rcases hfinal : last.start mid with ⟨ending, final⟩
  rw [hfinal] at hend
  simp only [hfinal]
  cases ending <;> exact hend.trans hkept

section

variable {queue : Script → List (Reply α)} {keep : List (Reply α) → Script → Script}

/-- The taking of a reply from a queue does not show in the view. -/
def Unseen (view : Stage σ → υ) (queue : Script → List (Reply α))
    (keep : List (Reply α) → Script → Script) : Prop :=
  ∀ stage : Stage σ, view { stage with world := { stage.world with
    script := keep (queue stage.world.script).tail stage.world.script } } = view stage

theorem perform {call : Call} {usual : α} {ending : α → Ending} (htake : Unseen view queue keep)
    (henter : ∀ ending, (Act.enter call ending : Act σ Unit).KeepsStage view) :
    (Act.perform call usual ending queue keep : Act σ α).KeepsStage view := by
  intro stage
  rw [Act.perform, start_bind, start_world]
  simp only [start_bind, start_updateWorld]
  cases (queue stage.world.script).head?.join with
  | none => exact (henter _ _).trans (htake stage)
  | some reply => cases reply <;> exact (henter _ _).trans (htake stage)

theorem reading {usual : α} (htake : Unseen view queue keep) :
    (Act.reading usual queue keep : Act σ α).KeepsStage view := by
  intro stage
  rw [Act.reading, start_bind, start_world]
  simp only [start_bind, start_updateWorld]
  cases (queue stage.world.script).head?.join with
  | none => exact htake stage
  | some reply => cases reply <;> exact htake stage

end

theorem start_bind_view {f : α → Act σ β} (hf : ∀ a, (f a).KeepsStage view) (stage : Stage σ) :
    view ((act >>= f).start stage).2 = view (act.start stage).2 := by
  rw [start_bind]
  rcases act.start stage with ⟨result, mid⟩
  cases result with
  | ok a => exact hf a mid
  | error fault => rfl

theorem start_recover_view {handle : Fault → Act σ α}
    (hhandle : ∀ fault, (handle fault).KeepsStage view) (stage : Stage σ) :
    view ((act.recover handle).start stage).2 = view (act.start stage).2 := by
  rw [start_recover]
  rcases act.start stage with ⟨result, mid⟩
  cases result with
  | ok a => rfl
  | error fault => exact hhandle fault mid

/-- A relation between what a view shows before an action and after it also holds behind an action
that keeps the view, if it allows that nothing but a fault comes of it. -/
theorem start_bind_rel {f : α → Act σ β} {R : υ → Except Fault β → υ → Prop}
    (h : act.KeepsStage view) (hfault : ∀ shown fault, R shown (.error fault) shown)
    (hf : ∀ a stage, R (view stage) ((f a).start stage).1 (view ((f a).start stage).2))
    (stage : Stage σ) :
    R (view stage) ((act >>= f).start stage).1 (view ((act >>= f).start stage).2) := by
  have hkept := h stage
  rw [start_bind]
  rcases hact : act.start stage with ⟨result, mid⟩
  rw [hact] at hkept
  rw [← hkept]
  cases result with
  | error fault => exact hfault _ fault
  | ok a => exact hf a mid

theorem journal_of_silent (h : act.Shows fun _ events _ _ => events = []) :
    act.KeepsStage fun stage => stage.world.journal := by
  intro stage
  obtain ⟨events, hjournal, rfl⟩ := h stage
  exact hjournal.trans (List.append_nil _)

theorem journal_of_ends {result : Except Fault α} (h : act.Shows (Behaviour.ends result)) :
    act.KeepsStage fun stage => stage.world.journal :=
  journal_of_silent (h.mono fun _ _ _ _ hends => hends.1)

end KeepsStage

theorem keeps_iff {view : σ → υ} {act : Act σ α} :
    act.Keeps view ↔ act.KeepsStage (view ∘ Stage.self) := .rfl

namespace Keeps

variable {view : σ → υ} {act : Act σ α}

theorem pure {a : α} : (Pure.pure a : Act σ α).Keeps view := fun _ => rfl

theorem throw {fault : Fault} : (MonadExcept.throw fault : Act σ α).Keeps view := fun _ => rfl

theorem world : (Act.world : Act σ World).Keeps view := fun _ => rfl

theorem enter {call : Call} {ending : Ending} : (Act.enter call ending : Act σ Unit).Keeps view :=
  fun _ => rfl

theorem updateWorld {change : World → World} : (Act.updateWorld change : Act σ Unit).Keeps view :=
  fun _ => rfl

theorem update {change : σ → σ} (h : ∀ s, view (change s) = view s) :
    (Act.update change).Keeps view := fun stage => h stage.self

theorem bind {f : α → Act σ β} (h : act.Keeps view) (hf : ∀ a, (f a).Keeps view) :
    (act >>= f).Keeps view :=
  keeps_iff.mpr ((keeps_iff.mp h).bind fun a => keeps_iff.mp (hf a))

theorem perform {call : Call} {usual : α} {ending : α → Ending}
    {queue : Script → List (Reply α)} {keep : List (Reply α) → Script → Script} :
    (Act.perform call usual ending queue keep : Act σ α).Keeps view :=
  keeps_iff.mpr (.perform (fun _ => rfl) fun _ _ => rfl)

end Keeps

end QueryGate.Act

namespace QueryGate

variable {σ τ α : Type}

/-- The pool that was opened, if the call opened one. -/
def Event.opened? : Event → Option Nat
  | ⟨.openPool _, .opened pool⟩ => some pool
  | _ => none

/-- The pool that was closed, if the call closed one. -/
def Event.closed? : Event → Option Nat
  | ⟨.closePool pool, .done⟩ => some pool
  | _ => none

/-- The pools that events open, in order. -/
def openedPools (events : List Event) : List Nat := events.filterMap Event.opened?

/-- The pools that events close, in order. -/
def closedPools (events : List Event) : List Nat := events.filterMap Event.closed?

/-- The call opens or closes a pool. -/
def Call.isPool : Call → Bool
  | .openPool _ | .closePool _ => true
  | _ => false

/-- The pools that were opened and closed in a world, and the number of the next one. -/
structure Pools where
  next : Nat
  opened : List Nat
  closed : List Nat

def World.pools (world : World) : Pools :=
  ⟨world.nextPool, openedPools world.journal, closedPools world.journal⟩

namespace Pools

/-- The pools after the next one is opened. -/
def openNext (pools : Pools) : Pools :=
  { pools with next := pools.next + 1, opened := pools.opened ++ [pools.next] }

def close (pools : Pools) (pool : Nat) : Pools :=
  { pools with closed := pools.closed ++ [pool] }

end Pools

/-- The state of the program and the pools of its world. -/
def Stage.lasting (stage : Stage σ) : σ × Pools := (stage.self, stage.world.pools)

theorem openedPools_concat (events : List Event) (event : Event) :
    openedPools (events ++ [event]) = openedPools events ++ event.opened?.toList := by
  cases h : event.opened? <;> simp [openedPools, h]

theorem closedPools_concat (events : List Event) (event : Event) :
    closedPools (events ++ [event]) = closedPools events ++ event.closed?.toList := by
  cases h : event.closed? <;> simp [closedPools, h]

theorem Event.opened?_eq_none {call : Call} (h : call.isPool = false) (ending : Ending) :
    Event.opened? ⟨call, ending⟩ = none := by
  cases call <;> first | rfl | cases h

theorem Event.closed?_eq_none {call : Call} (h : call.isPool = false) (ending : Ending) :
    Event.closed? ⟨call, ending⟩ = none := by
  cases call <;> first | rfl | cases h

namespace Act

namespace KeepsStage

theorem send_lasting {record : Log.Record} :
    (Act.send record : Act σ Unit).KeepsStage Stage.lasting := fun _ => rfl

theorem enter_lasting {call : Call} {ending : Ending} (h : call.isPool = false) :
    (Act.enter call ending : Act σ Unit).KeepsStage Stage.lasting := by
  intro stage
  rw [Act.enter, start_updateWorld]
  simp [Stage.lasting, World.pools, openedPools_concat, closedPools_concat,
    Event.opened?_eq_none h, Event.closed?_eq_none h]

theorem perform_lasting {call : Call} {usual : α} {ending : α → Ending}
    {queue : Script → List (Reply α)} {keep : List (Reply α) → Script → Script}
    (h : call.isPool = false) :
    (Act.perform call usual ending queue keep : Act σ α).KeepsStage Stage.lasting :=
  .perform (fun _ => rfl) fun _ => enter_lasting h

theorem readClock_lasting : (Act.readClock : Act σ Number.Double).KeepsStage Stage.lasting :=
  .reading fun _ => rfl

end KeepsStage

end Act

variable {σ τ α : Type}

/-- The records of a kind that were sent. -/
def Stage.sent (kind : Log.Record → Bool) (stage : Stage σ) : List Log.Record :=
  stage.world.records.filter kind

namespace Act.KeepsStage

variable {kind : Log.Record → Bool}

theorem update_sent {change : σ → σ} : (Act.update change).KeepsStage (Stage.sent kind) :=
  fun _ => rfl

theorem enter_sent {call : Call} {ending : Ending} :
    (Act.enter call ending : Act σ Unit).KeepsStage (Stage.sent kind) := fun _ => rfl

theorem send_sent {record : Log.Record} (h : kind record = false) :
    (Act.send record : Act σ Unit).KeepsStage (Stage.sent kind) := by
  intro stage
  rw [start_send, Stage.sent, List.filter_append, List.filter_singleton, h]
  exact List.append_nil _

/-- What begins with a record of the kind, and sends no other, sends just this one. -/
theorem sent_of_first {record : Log.Record} (h : kind record = true) {rest : Act σ α}
    (hrest : rest.KeepsStage (Stage.sent kind)) (stage : Stage σ) :
    (((Act.send record : Act σ Unit) >>= fun _ => rest).start stage).2.sent kind =
      stage.sent kind ++ [record] := by
  rw [start_bind, start_send]
  refine (hrest _).trans ?_
  rw [Stage.sent, List.filter_append, List.filter_singleton, h]
  rfl

theorem perform_sent {call : Call} {usual : α} {ending : α → Ending}
    {queue : Script → List (Reply α)} {keep : List (Reply α) → Script → Script} :
    (Act.perform call usual ending queue keep : Act σ α).KeepsStage (Stage.sent kind) :=
  .perform (fun _ => rfl) fun _ => enter_sent

theorem reading_sent {usual : α} {queue : Script → List (Reply α)}
    {keep : List (Reply α) → Script → Script} :
    (Act.reading usual queue keep : Act σ α).KeepsStage (Stage.sent kind) := .reading fun _ => rfl

theorem openPool_sent {parameters : Parameters} :
    (Act.openPool parameters : Act σ Nat).KeepsStage (Stage.sent kind) :=
  .bind .world fun _ => .bind perform_sent fun _ => .bind (fun _ => rfl) fun _ => .pure

theorem onOther_sent {other : τ} {act : Act τ α} (h : act.KeepsStage (Stage.sent kind)) :
    (Act.onOther other act : Act σ (α × τ)).KeepsStage (Stage.sent kind) :=
  fun stage => h ⟨other, stage.world⟩

theorem onPart_sent {part : τ} {putBack : τ → σ → σ} {act : Act τ α}
    (h : act.KeepsStage (Stage.sent kind)) :
    (Act.onPart part putBack act).KeepsStage (Stage.sent kind) :=
  fun stage => h ⟨part, stage.world⟩

end Act.KeepsStage

end QueryGate
