import QueryGate.Proofs.World.Keeping

/-!
# Properties that actions inherit from their parts

Many properties of an action are of one kind: a compound action has them if its parts have them,
and a call on an open pool always has them. Such a property needs one pass through a program, and
every property of this kind holds of the program by the same pass.

Some faults may be ruled out. A part that ends with a fault then has the property only if the
fault is allowed, and a handler has to deal with the allowed faults only. The exceptions that the
program raises itself are always allowed. In the same way some log records may be ruled out.

The faults of a run are raised by the program or come from the replies of the world. If the script
replies with allowed faults only, whatever was taken from it before, then an action of which the
same holds ends with allowed faults only. All that is made of calls on an open pool does.
-/

namespace QueryGate

/-- The message is a text. -/
def Fault.Legible (fault : Fault) : Prop := ∃ message : String, fault.message = message

/-- Exceptions with legible messages are allowed, and an exception that quotes an allowed one. -/
structure Fault.Admitting (allowed : Fault → Prop) : Prop where
  legible : ∀ {fault : Fault}, fault.isException = true → fault.Legible → allowed fault
  quoting : ∀ {fault : Fault}, fault.isException = true → allowed fault → ∀ text : String,
    allowed (.service (.general (text ++ fault.message) true))

theorem Fault.Admitting.of_exceptions {allowed : Fault → Prop}
    (h : ∀ fault : Fault, fault.isException = true → allowed fault) : Fault.Admitting allowed :=
  ⟨fun hexception _ => h _ hexception, fun _ _ _ => h _ rfl⟩

namespace Act

variable {σ α β : Type}

/-- A property that a compound action inherits from its parts. -/
structure Inherited (allowed : Fault → Prop) (sendable : Log.Record → Prop)
    (P : ∀ {α : Type}, Act σ α → Prop) : Prop where
  admits : Fault.Admitting allowed
  pure : ∀ {α : Type} {a : α}, P (Pure.pure a : Act σ α)
  throw : ∀ {α : Type} {fault : Fault}, allowed fault → P (MonadExcept.throw fault : Act σ α)
  bind : ∀ {α β : Type} {act : Act σ α} {f : α → Act σ β}, P act → (∀ a, P (f a)) → P (act >>= f)
  recover : ∀ {α : Type} {act : Act σ α} {handle : Fault → Act σ α}, P act →
    (∀ fault, allowed fault → P (handle fault)) → P (act.recover handle)
  ensuring : ∀ {α : Type} {act : Act σ α} {last : Act σ Unit}, P act → P last →
    P (act.ensuring last)
  self : P (Act.self : Act σ σ)
  world : P (Act.world : Act σ World)
  send : ∀ {record : Log.Record}, sendable record → P (Act.send record : Act σ Unit)
  checkOut : ∀ {pool : Nat}, P (Act.checkOut pool : Act σ Unit)
  giveBack : ∀ {pool : Nat}, P (Act.giveBack pool : Act σ Unit)
  openCursor : ∀ {named : Bool}, P (Act.openCursor named : Act σ Unit)
  closeCursor : P (Act.closeCursor : Act σ Unit)
  executeWith : ∀ {sql : String} {parameters : List String},
    P (Act.executeWith sql parameters : Act σ Unit)
  hasRows : P (Act.hasRows : Act σ Bool)
  fetchOne : P (Act.fetchOne : Act σ Unit)
  fetchAll : P (Act.fetchAll : Act σ (List Value))
  commit : P (Act.commit : Act σ Unit)
  rollback : P (Act.rollback : Act σ Unit)
  readClock : P (Act.readClock : Act σ Number.Double)

namespace Inherited

variable {allowed : Fault → Prop} {sendable : Log.Record → Prop}
  {P : ∀ {α : Type}, Act σ α → Prop}

section

variable (h : Inherited allowed sendable P)

include h

theorem narrow {sendable' : Log.Record → Prop} (hnarrow : ∀ record, sendable' record →
    sendable record) : Inherited allowed sendable' P :=
  { h with send := fun hrecord => h.send (hnarrow _ hrecord) }

theorem execute {sql : String} : P (Act.execute sql : Act σ Unit) := h.executeWith

theorem raise {fault : Fault} {message : String} (hexception : fault.isException = true)
    (hmessage : fault.message = message) : P (MonadExcept.throw fault : Act σ α) :=
  h.throw (h.admits.legible hexception ⟨message, hmessage⟩)

theorem raise_bind {fault : Fault} {message : String} {f : β → Act σ α}
    (hexception : fault.isException = true) (hmessage : fault.message = message) :
    P ((MonadExcept.throw fault : Act σ β) >>= f) := h.raise hexception hmessage

theorem ofExcept {result : Except Fault α}
    (hresult : ∀ fault, result = .error fault → allowed fault) :
    P (Act.ofExcept result : Act σ α) := by
  cases result with
  | ok a => exact h.pure
  | error fault => exact h.throw (hresult fault rfl)

theorem mapM {f : β → Act σ α} (hf : ∀ b, P (f b)) (bs : List β) : P (bs.mapM f) := by
  induction bs with
  | nil => exact h.pure
  | cons b bs ih =>
    rw [List.mapM_cons]
    exact h.bind (hf b) fun _ => h.bind ih fun _ => h.pure

theorem forM {f : β → Act σ Unit} (hf : ∀ b, P (f b)) (bs : List β) : P (bs.forM f) := by
  induction bs with
  | nil => exact h.pure
  | cons b bs ih => exact h.bind (hf b) fun _ => ih

end

/-- What is kept by calls on open pools is kept by everything that is made of them. -/
theorem keepsStage {υ : Type} (view : σ × Pools → υ) :
    Inherited (fun _ => True) sendable
      (fun {α : Type} (act : Act σ α) => act.KeepsStage (view ∘ Stage.lasting)) where
  admits := .of_exceptions fun _ _ => trivial
  pure := .pure
  throw _ := .throw
  bind := .bind
  recover hact hhandle := .recover hact fun fault => hhandle fault trivial
  ensuring := .ensuring
  self := .self
  world := .world
  send _ := KeepsStage.send_lasting.comp view
  checkOut := (KeepsStage.perform_lasting rfl).comp view
  giveBack := (KeepsStage.perform_lasting rfl).comp view
  openCursor := (KeepsStage.perform_lasting rfl).comp view
  closeCursor := (KeepsStage.enter_lasting rfl).comp view
  executeWith := (KeepsStage.perform_lasting rfl).comp view
  hasRows := (KeepsStage.perform_lasting rfl).comp view
  fetchOne := (KeepsStage.perform_lasting rfl).comp view
  fetchAll := (KeepsStage.perform_lasting rfl).comp view
  commit := (KeepsStage.perform_lasting rfl).comp view
  rollback := (KeepsStage.perform_lasting rfl).comp view
  readClock := KeepsStage.readClock_lasting.comp view

/-- Where no record of a kind is sent, those that were sent stay. -/
theorem keepsSent (kind : Log.Record → Bool) :
    Inherited (fun _ => True) (fun record => kind record = false)
      (fun {α : Type} (act : Act σ α) => act.KeepsStage (Stage.sent kind)) where
  admits := .of_exceptions fun _ _ => trivial
  pure := .pure
  throw _ := .throw
  bind := .bind
  recover hact hhandle := .recover hact fun fault => hhandle fault trivial
  ensuring := .ensuring
  self := .self
  world := .world
  send := .send_sent
  checkOut := .perform_sent
  giveBack := .perform_sent
  openCursor := .perform_sent
  closeCursor := .enter_sent
  executeWith := .perform_sent
  hasRows := .perform_sent
  fetchOne := .perform_sent
  fetchAll := .perform_sent
  commit := .perform_sent
  rollback := .perform_sent
  readClock := .reading_sent

end Inherited

end Act

variable {σ τ α β : Type}

/-- Every fault among the replies is allowed. -/
def AllowedReplies (allowed : Fault → Prop) (replies : List (Reply α)) : Prop :=
  ∀ fault, some (.error fault) ∈ replies → allowed fault

theorem AllowedReplies.nil {allowed : Fault → Prop} :
    AllowedReplies allowed ([] : List (Reply α)) := fun _ hmem => by cases hmem

theorem AllowedReplies.tail {allowed : Fault → Prop} {replies : List (Reply α)}
    (h : AllowedReplies allowed replies) : AllowedReplies allowed replies.tail :=
  fun fault hmem => h fault (List.mem_of_mem_tail hmem)

/-- A queue of the scripts in question holds allowed faults only, and what is left of such a script
when the first reply is taken is such a script again. -/
structure Draws (scripts : Script → Prop) (allowed : Fault → Prop)
    (queue : Script → List (Reply α)) (keep : List (Reply α) → Script → Script) : Prop where
  replies : ∀ {script : Script}, scripts script → AllowedReplies allowed (queue script)
  rest : ∀ {script : Script}, scripts script → scripts (keep (queue script).tail script)

theorem Draws.reply {scripts : Script → Prop} {allowed : Fault → Prop}
    {queue : Script → List (Reply α)} {keep : List (Reply α) → Script → Script}
    (h : Draws scripts allowed queue keep) {script : Script} (hscript : scripts script)
    {fault : Fault} (hreply : (queue script).head?.join = some (.error fault)) : allowed fault :=
  h.replies hscript fault (List.mem_of_mem_head? (Option.join_eq_some_iff.mp hreply))

namespace Act

/-- The action ends with an allowed fault at most, and it leaves a script in question to what
follows. -/
def ConfinedAt (scripts : Script → Prop) (allowed : Fault → Prop) (act : Act σ α)
    (stage : Stage σ) : Prop :=
  (∀ fault, (act.start stage).1 = .error fault → allowed fault) ∧
    scripts (act.start stage).2.world.script

/-- The action is confined wherever it meets a script in question. -/
def Confined (scripts : Script → Prop) (allowed : Fault → Prop) (act : Act σ α) : Prop :=
  ∀ stage, scripts stage.world.script → act.ConfinedAt scripts allowed stage

variable {scripts : Script → Prop} {allowed : Fault → Prop} {act : Act σ α} {stage : Stage σ}

private theorem allowed_of_ok {a : α} (fault : Fault)
    (h : (.ok a : Except Fault α) = .error fault) : allowed fault := by
  cases h

private theorem allowed_of_error {fault : Fault} (hfault : allowed fault) (other : Fault)
    (h : (.error fault : Except Fault α) = .error other) : allowed other := by
  cases h
  exact hfault

namespace ConfinedAt

theorem bind {f : α → Act σ β} (h : act.ConfinedAt scripts allowed stage)
    (hf : ∀ a, (f a).Confined scripts allowed) : (act >>= f).ConfinedAt scripts allowed stage := by
  obtain ⟨hfault, hmid⟩ := h
  rw [ConfinedAt, start_bind]
  rcases hact : act.start stage with ⟨result, mid⟩
  rw [hact] at hfault hmid
  cases result with
  | error fault => exact ⟨allowed_of_error (hfault fault rfl), hmid⟩
  | ok a => exact hf a mid hmid

theorem bind_ok {a : α} {mid : Stage σ} {f : α → Act σ β} (hact : act.start stage = (.ok a, mid))
    (h : (f a).ConfinedAt scripts allowed mid) : (act >>= f).ConfinedAt scripts allowed stage := by
  rwa [ConfinedAt, start_bind_ok hact]

theorem onOther {other : τ} {act : Act τ α}
    (h : act.ConfinedAt scripts allowed ⟨other, stage.world⟩) :
    (Act.onOther other act : Act σ (α × τ)).ConfinedAt scripts allowed stage := by
  obtain ⟨hfault, hend⟩ := h
  rw [ConfinedAt, start_onOther]
  rcases hact : act.start ⟨other, stage.world⟩ with ⟨result, inner⟩
  rw [hact] at hfault hend
  cases result with
  | ok a => exact ⟨allowed_of_ok, hend⟩
  | error fault => exact ⟨allowed_of_error (hfault fault rfl), hend⟩

end ConfinedAt

namespace Confined

theorem pure {a : α} : (Pure.pure a : Act σ α).Confined scripts allowed :=
  fun _ hscript => ⟨allowed_of_ok, hscript⟩

theorem throw {fault : Fault} (h : allowed fault) :
    (MonadExcept.throw fault : Act σ α).Confined scripts allowed :=
  fun _ hscript => ⟨allowed_of_error h, hscript⟩

theorem self : (Act.self : Act σ σ).Confined scripts allowed :=
  fun _ hscript => ⟨allowed_of_ok, hscript⟩

theorem world : (Act.world : Act σ World).Confined scripts allowed :=
  fun _ hscript => ⟨allowed_of_ok, hscript⟩

theorem update {change : σ → σ} : (Act.update change).Confined scripts allowed :=
  fun _ hscript => ⟨allowed_of_ok, hscript⟩

theorem updateWorld {change : World → World}
    (h : ∀ world : World, scripts world.script → scripts (change world).script) :
    (Act.updateWorld change : Act σ Unit).Confined scripts allowed :=
  fun stage hscript => ⟨allowed_of_ok, h stage.world hscript⟩

theorem send {record : Log.Record} : (Act.send record : Act σ Unit).Confined scripts allowed :=
  updateWorld fun _ hscript => hscript

theorem enter {call : Call} {ending : Ending} :
    (Act.enter call ending : Act σ Unit).Confined scripts allowed :=
  updateWorld fun _ hscript => hscript

theorem mono {allowed' : Fault → Prop} (h : act.Confined scripts allowed)
    (himp : ∀ fault, allowed fault → allowed' fault) : act.Confined scripts allowed' :=
  fun stage hscript => ⟨fun fault hr => himp fault ((h stage hscript).1 fault hr),
    (h stage hscript).2⟩

theorem bind {f : α → Act σ β} (h : act.Confined scripts allowed)
    (hf : ∀ a, (f a).Confined scripts allowed) : (act >>= f).Confined scripts allowed :=
  fun stage hscript => (h stage hscript).bind hf

/-- A handler deals with allowed faults only, and it may allow others. -/
theorem recover {allowed' : Fault → Prop} {handle : Fault → Act σ α}
    (h : act.Confined scripts allowed)
    (hhandle : ∀ fault, allowed fault → (handle fault).Confined scripts allowed') :
    (act.recover handle).Confined scripts allowed' := by
  intro stage hscript
  obtain ⟨hfault, hmid⟩ := h stage hscript
  rw [ConfinedAt, start_recover]
  rcases hact : act.start stage with ⟨result, mid⟩
  rw [hact] at hfault hmid
  cases result with
  | error fault => exact hhandle fault (hfault fault rfl) mid hmid
  | ok a => exact ⟨allowed_of_ok, hmid⟩

theorem ensuring {last : Act σ Unit} (h : act.Confined scripts allowed)
    (hlast : last.Confined scripts allowed) : (act.ensuring last).Confined scripts allowed := by
  intro stage hscript
  obtain ⟨hfault, hmid⟩ := h stage hscript
  rw [ConfinedAt, start_ensuring]
  rcases hact : act.start stage with ⟨result, mid⟩
  rw [hact] at hfault hmid
  obtain ⟨hend, hfinal⟩ := hlast mid hmid
  rcases hstart : last.start mid with ⟨ending, final⟩
  rw [hstart] at hend hfinal
  simp only [hstart]
  cases ending with
  | ok _ => exact ⟨hfault, hfinal⟩
  | error fault => exact ⟨allowed_of_error (hend fault rfl), hfinal⟩

theorem onPart {part : τ} {putBack : τ → σ → σ} {act : Act τ α}
    (h : act.Confined scripts allowed) : (Act.onPart part putBack act).Confined scripts allowed :=
  fun stage hscript => h ⟨part, stage.world⟩ hscript

section

variable {queue : Script → List (Reply α)} {keep : List (Reply α) → Script → Script}

theorem reading (h : Draws scripts allowed queue keep) {usual : α} :
    (Act.reading usual queue keep : Act σ α).Confined scripts allowed := by
  intro stage hscript
  have hrest := h.rest hscript
  rw [ConfinedAt, Act.reading, start_bind, start_world]
  simp only [start_bind, start_updateWorld]
  cases hreply : (queue stage.world.script).head?.join with
  | none => exact ⟨allowed_of_ok, hrest⟩
  | some reply => cases reply with
    | ok a => exact ⟨allowed_of_ok, hrest⟩
    | error fault => exact throw (h.reply hscript hreply) _ hrest

theorem perform (h : Draws scripts allowed queue keep) {call : Call} {usual : α}
    {ending : α → Ending} :
    (Act.perform call usual ending queue keep : Act σ α).Confined scripts allowed := by
  intro stage hscript
  have hrest := h.rest hscript
  rw [ConfinedAt, Act.perform, start_bind, start_world]
  simp only [start_bind, start_updateWorld]
  cases hreply : (queue stage.world.script).head?.join with
  | none => exact bind enter (fun _ => pure) _ hrest
  | some reply => cases reply with
    | ok a => exact bind enter (fun _ => pure) _ hrest
    | error fault => exact bind enter (fun _ => throw (h.reply hscript hreply)) _ hrest

end

theorem openPool {parameters : Parameters}
    (h : Draws scripts allowed (·.openPool) fun rest script => { script with openPool := rest }) :
    (Act.openPool parameters : Act σ Nat).Confined scripts allowed :=
  bind world fun _ => bind (perform h) fun _ => bind (updateWorld fun _ hscript => hscript)
    fun _ => pure

end Confined

/-- The queues from which calls on an open pool take their replies. -/
structure Confining (scripts : Script → Prop) (allowed : Fault → Prop) : Prop where
  admits : Fault.Admitting allowed
  checkOut : Draws scripts allowed (·.checkOut) fun rest script => { script with checkOut := rest }
  giveBack : Draws scripts allowed (·.giveBack) fun rest script => { script with giveBack := rest }
  openCursor : Draws scripts allowed (·.openCursor) fun rest script =>
    { script with openCursor := rest }
  execute : Draws scripts allowed (·.execute) fun rest script => { script with execute := rest }
  hasRows : Draws scripts allowed (·.hasRows) fun rest script => { script with hasRows := rest }
  fetchOne : Draws scripts allowed (·.fetchOne) fun rest script => { script with fetchOne := rest }
  fetchAll : Draws scripts allowed (·.fetchAll) fun rest script => { script with fetchAll := rest }
  commit : Draws scripts allowed (·.commit) fun rest script => { script with commit := rest }
  rollback : Draws scripts allowed (·.rollback) fun rest script => { script with rollback := rest }
  clock : Draws scripts allowed (·.clock) fun rest script => { script with clock := rest }

/-- All that is made of calls on an open pool is confined. -/
theorem Inherited.confined {scripts : Script → Prop} {allowed : Fault → Prop}
    {sendable : Log.Record → Prop} (h : Confining scripts allowed) :
    Inherited allowed sendable
      (fun {α : Type} (act : Act σ α) => act.Confined scripts allowed) where
  admits := h.admits
  pure := .pure
  throw := .throw
  bind := .bind
  recover := .recover
  ensuring := .ensuring
  self := .self
  world := .world
  send _ := .send
  checkOut := .perform h.checkOut
  giveBack := .perform h.giveBack
  openCursor := .perform h.openCursor
  closeCursor := .enter
  executeWith := .perform h.execute
  hasRows := .perform h.hasRows
  fetchOne := .perform h.fetchOne
  fetchAll := .perform h.fetchAll
  commit := .perform h.commit
  rollback := .perform h.rollback
  readClock := .reading h.clock

end Act

variable {α : Type}

/-- The replies of scripts that requests do not meet. -/
structure Script.Others where
  closePool : List (Reply Unit)
  serveTools : List (Reply Unit)
  serveHealth : List (Reply Unit)
  now : List (Reply Calendar.DateTime)

def Script.others (script : Script) : Script.Others :=
  ⟨script.closePool, script.serveTools, script.serveHealth, script.now⟩

/-- The replies that requests meet hold allowed faults only. -/
structure Script.Allows (allowed : Fault → Prop) (script : Script) : Prop where
  openPool : AllowedReplies allowed script.openPool
  checkOut : AllowedReplies allowed script.checkOut
  giveBack : AllowedReplies allowed script.giveBack
  openCursor : AllowedReplies allowed script.openCursor
  execute : AllowedReplies allowed script.execute
  hasRows : AllowedReplies allowed script.hasRows
  fetchOne : AllowedReplies allowed script.fetchOne
  fetchAll : AllowedReplies allowed script.fetchAll
  commit : AllowedReplies allowed script.commit
  rollback : AllowedReplies allowed script.rollback
  clock : AllowedReplies allowed script.clock

namespace Script.Allows

variable {allowed : Fault → Prop}

theorem mono {allowed' : Fault → Prop} {script : Script} (h : script.Allows allowed)
    (himp : ∀ fault, allowed fault → allowed' fault) : script.Allows allowed' :=
  have hreplies {α : Type} {replies : List (Reply α)} (h : AllowedReplies allowed replies) :
      AllowedReplies allowed' replies := fun fault hmem => himp fault (h fault hmem)
  ⟨hreplies h.openPool, hreplies h.checkOut, hreplies h.giveBack, hreplies h.openCursor,
    hreplies h.execute, hreplies h.hasRows, hreplies h.fetchOne, hreplies h.fetchAll,
    hreplies h.commit, hreplies h.rollback, hreplies h.clock⟩

/-- Where requests meet allowed faults only, calls on an open pool end with allowed faults only,
whatever holds of the other replies. -/
theorem confining (rest : Script.Others → Prop) (h : Fault.Admitting allowed) :
    Act.Confining (fun script => script.Allows allowed ∧ rest script.others) allowed where
  admits := h
  checkOut := ⟨(·.1.checkOut), fun h => ⟨{ h.1 with checkOut := h.1.checkOut.tail }, h.2⟩⟩
  giveBack := ⟨(·.1.giveBack), fun h => ⟨{ h.1 with giveBack := h.1.giveBack.tail }, h.2⟩⟩
  openCursor := ⟨(·.1.openCursor), fun h => ⟨{ h.1 with openCursor := h.1.openCursor.tail }, h.2⟩⟩
  execute := ⟨(·.1.execute), fun h => ⟨{ h.1 with execute := h.1.execute.tail }, h.2⟩⟩
  hasRows := ⟨(·.1.hasRows), fun h => ⟨{ h.1 with hasRows := h.1.hasRows.tail }, h.2⟩⟩
  fetchOne := ⟨(·.1.fetchOne), fun h => ⟨{ h.1 with fetchOne := h.1.fetchOne.tail }, h.2⟩⟩
  fetchAll := ⟨(·.1.fetchAll), fun h => ⟨{ h.1 with fetchAll := h.1.fetchAll.tail }, h.2⟩⟩
  commit := ⟨(·.1.commit), fun h => ⟨{ h.1 with commit := h.1.commit.tail }, h.2⟩⟩
  rollback := ⟨(·.1.rollback), fun h => ⟨{ h.1 with rollback := h.1.rollback.tail }, h.2⟩⟩
  clock := ⟨(·.1.clock), fun h => ⟨{ h.1 with clock := h.1.clock.tail }, h.2⟩⟩

theorem drawsPool (rest : Script.Others → Prop) :
    Draws (fun script => script.Allows allowed ∧ rest script.others) allowed (·.openPool)
      fun rest script => { script with openPool := rest } :=
  ⟨(·.1.openPool), fun h => ⟨{ h.1 with openPool := h.1.openPool.tail }, h.2⟩⟩

end Script.Allows

end QueryGate
