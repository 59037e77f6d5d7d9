import QueryGate.Proofs.Database.Reaching

/-!
# The states of a service

A service may be told to connect, to probe, query and look up, to tell its status and to close, in
any order and as often as one likes. What one such command may change is given by one relation,
whatever the world replies. From it follows what holds in every state of the service, by induction
on the commands, and what each command leaves as it is there.
-/

namespace QueryGate.Service

open Behaviour

variable {α : Type} {settings : Settings} {s s' : Service} {events : List Event}

namespace Operation

/-- What an operation leaves behind. Only a probe notes something, and it notes that the database
was reached only if there is a pool. -/
inductive Leaves (s : Service) : Operation → Except Fault Unit → Service → Prop where
  | reached {pool : Nat} (hpool : s.pool = some pool) :
      Leaves s .probe (.ok ()) { s with connected := true }
  | unreached (fault : Fault) : Leaves s .probe (.error fault) { s with connected := false }
  /-- A probe that is interrupted notes nothing. -/
  | interrupted (fault : Fault) : Leaves s .probe (.error fault) s
  | kept {operation : Operation} (hother : operation ≠ .probe) (r : Except Fault Unit) :
      Leaves s operation r s

end Operation

theorem UsesCursor.same {named : Bool} {b : Behaviour Service α} {r : Except Fault α}
    (h : UsesCursor named b s events r s') (hb : ∀ events r, b s events r s' → s' = s) :
    s' = s := by
  cases h with
  | refused fault => rfl
  | used run => exact hb _ _ run

theorem Looks.same {named : Bool} {b : Behaviour Service α} {r : Except Fault α}
    (h : Looks named b s events r s') (hb : ∀ events r, b s events r s' → s' = s) : s' = s :=
  h.calls_have (P := fun _ => s' = s) (fun _ _ run => run.same hb) fun _ _ hsame => hsame

theorem Connects.same {b : Behaviour Service α} {r : Except Fault α}
    (h : Connects b s events r s') (hb : ∀ events r, b s events r s' → s' = s) : s' = s := by
  cases h with
  | closed hpool => rfl
  | refused hpool fault => rfl
  | used hpool run => exact hb _ _ run
  | stuck hpool run fault => exact hb _ _ run

theorem probe_leaves : probe.Shows fun s _ r s' => Operation.Leaves s .probe r s' := by
  refine probe_shows.mono fun s events r s' h => ?_
  have hsame {events : List Event} {r : Except Fault Unit} {s' : Service}
      (run : Connects (Looks false Reads) s events r s') : s' = s :=
    run.same fun _ _ looks => looks.same fun _ _ reads => reads.same
  cases h with
  | reached run =>
    obtain rfl := hsame run
    cases run with
    | used hpool looks => exact .reached hpool
  | unreached run hreport =>
    obtain rfl := hsame run
    exact .unreached _
  | passed run hreport =>
    obtain rfl := hsame run
    exact .interrupted _

theorem Operation.run_keeps {operation : Operation} (hother : operation ≠ .probe) :
    operation.run.KeepsStage Stage.self := by
  have hkeeps : Act.Inherited (fun _ => True) IsOwn
      (fun {α : Type} (act : Action α) => act.KeepsStage Stage.self) := .keepsStage Prod.fst
  cases operation with
  | probe => exact absurd rfl hother
  | query sql readOnly => exact .bind (inherited_query hkeeps) fun _ => .pure
  | tables => exact .bind (inherited_tables hkeeps) fun _ => .pure
  | tableDetails schema table => exact .bind (inherited_tableDetails hkeeps) fun _ => .pure

theorem Operation.run_leaves (operation : Operation) :
    operation.run.Shows fun s events r s' =>
      UsesConnection operation.commits s events ∧ operation.Leaves s r s' := by
  by_cases hprobe : operation = .probe
  · obtain rfl := hprobe
    exact probe_usesConnection.and probe_leaves
  · intro stage
    obtain ⟨events, hjournal, huses⟩ := operation.usesConnection stage
    exact ⟨events, hjournal, huses, Operation.run_keeps hprobe stage ▸ .kept hprobe _⟩

/-- What a service may be told. -/
inductive Command where
  | connect
  | operate (operation : Operation)
  | status
  | close

namespace Command

/-- Carry the command out. What it returns is dropped. -/
def run : Command → Action Unit
  | .connect => Service.connect
  | .operate operation => operation.run
  | .status => do let _ := (← Act.self).status
  | .close => Service.close

/-- How the command ends. -/
def result (command : Command) (s : Service) (world : World) : Except Fault Unit :=
  (command.run.start ⟨s, world⟩).1

/-- The state behind the command. -/
def next (command : Command) (s : Service) (world : World) : Service :=
  (command.run.start ⟨s, world⟩).2.self

/-- The calls that the command adds to the journal. -/
def calls (command : Command) (s : Service) (world : World) : List Event :=
  (command.run.start ⟨s, world⟩).2.world.journal.drop world.journal.length

/-- What a command may do to a service: its calls, how it ends, and the state behind it. -/
inductive Changes (s : Service) :
    Command → List Event → Except Fault Unit → Service → Prop where
  | connects {events : List Event} {r : Except Fault Unit} {s' : Service}
      (opens : Opens s events r s') : Changes s .connect events r s'
  | operates {operation : Operation} {events : List Event} {r : Except Fault Unit} {s' : Service}
      (uses : UsesConnection operation.commits s events) (leaves : operation.Leaves s r s') :
      Changes s (.operate operation) events r s'
  | tells : Changes s .status [] (.ok ()) s
  | closes {events : List Event} {r : Except Fault Unit} {s' : Service}
      (closes : Closes s events r s') : Changes s .close events r s'

theorem run_shows (command : Command) :
    command.run.Shows fun s events r s' => Changes s command events r s' := by
  cases command with
  | connect => exact connect_shows.mono fun _ _ _ _ => .connects
  | operate operation => exact operation.run_leaves.mono fun _ _ _ _ h => .operates h.1 h.2
  | status => exact fun stage => ⟨[], (List.append_nil _).symm, .tells⟩
  | close => exact close_shows.mono fun _ _ _ _ => .closes

theorem changes (command : Command) (s : Service) (world : World) :
    Changes s command (command.calls s world) (command.result s world)
      (command.next s world) := by
  obtain ⟨events, hjournal, hchanges⟩ := command.run_shows ⟨s, world⟩
  have hcalls : command.calls s world = events := by
    rw [calls, hjournal, List.drop_left]
  rwa [hcalls]

end Command

/-- What holds in every state of a service. -/
structure Sound (settings : Settings) (s : Service) : Prop where
  settings : s.settings = settings
  opened : s.connected = true → ∃ pool, s.pool = some pool

theorem sound_new (settings : Settings) : Sound settings (new settings) where
  settings := rfl
  opened := fun hconnected => nomatch hconnected

theorem Command.Changes.sound {command : Command} {r : Except Fault Unit}
    (h : Changes s command events r s') (hs : Sound settings s) : Sound settings s' := by
  cases h with
  | connects opens =>
    cases opens with
    | unready fault => exact hs
    | refused parameters fault reported => exact hs
    | opened parameters pool => exact ⟨hs.settings, fun _ => ⟨pool, rfl⟩⟩
  | operates uses leaves =>
    cases leaves with
    | reached hpool => exact ⟨hs.settings, fun _ => ⟨_, hpool⟩⟩
    | unreached fault => exact ⟨hs.settings, fun hconnected => nomatch hconnected⟩
    | interrupted fault => exact hs
    | kept hother r => exact hs
  | tells => exact hs
  | closes closes =>
    cases closes with
    | idle hpool => exact hs
    | closed hpool => exact ⟨hs.settings, fun hconnected => nomatch hconnected⟩
    | failed hpool fault => exact hs

/-- The state behind commands, each of them carried out in a world of its own. -/
def after (s : Service) : List (Command × World) → Service
  | [] => s
  | (command, world) :: rest => after (command.next s world) rest

theorem Sound.after (hs : Sound settings s) (commands : List (Command × World)) :
    Sound settings (s.after commands) := by
  induction commands generalizing s with
  | nil => exact hs
  | cons step rest ih =>
    obtain ⟨command, world⟩ := step
    exact ih ((command.changes s world).sound hs)

namespace Command.Changes

variable {r : Except Fault Unit} {fault : Fault}

theorem connected (h : Changes s .connect events (.ok ()) s') : ∃ pool, s' = own pool s := by
  cases h with
  | connects opens =>
    cases opens with
    | opened parameters pool => exact ⟨pool, rfl⟩

theorem unconnected (h : Changes s .connect events (.error fault) s') : s' = s := by
  cases h with
  | connects opens => cases opens <;> rfl

theorem probed (h : Changes s (.operate .probe) events r s') :
    ∃ reached, s' = { s with connected := reached } ∧ (r = .ok () → reached = true) := by
  cases h with
  | operates uses leaves =>
    cases leaves with
    | reached hpool => exact ⟨true, rfl, fun _ => rfl⟩
    | unreached fault => exact ⟨false, rfl, fun hr => nomatch hr⟩
    | interrupted fault => exact ⟨s.connected, rfl, fun hr => nomatch hr⟩
    | kept hother r => exact absurd rfl hother

theorem closed (hs : Sound settings s) (h : Changes s .close events (.ok ()) s') :
    s' = { s with pool := none, connected := false } := by
  cases h with
  | closes closes =>
    cases closes with
    | closed hpool => rfl
    | idle hpool =>
      have hunconnected : s.connected = false := by
        by_contra hconnected
        obtain ⟨pool, hopen⟩ := hs.opened (by simpa using hconnected)
        rw [hpool] at hopen
        cases hopen
      rw [← hpool, ← hunconnected]

theorem unclosed (h : Changes s .close events (.error fault) s') : s' = s := by
  cases h with
  | closes closes => cases closes; rfl

/-- There is nothing to close without a pool. -/
theorem close_silent (hpool : s.pool = none) (h : Changes s .close events r s') :
    events = [] ∧ r = .ok () := by
  cases h with
  | closes closes =>
    cases closes with
    | idle hpool => exact ⟨rfl, rfl⟩
    | closed hopen =>
      rw [hpool] at hopen
      cases hopen
    | failed hopen fault =>
      rw [hpool] at hopen
      cases hopen

theorem operate_silent {operation : Operation} (hpool : s.pool = none)
    (h : Changes s (.operate operation) events r s') : events = [] := by
  cases h with
  | operates uses leaves => exact uses.balanced.closed hpool

end Command.Changes

/-- The invariants of a state, and what of it each command may change. -/
structure Framed (settings : Settings) (s : Service) : Prop where
  opened : s.connected = true → ∃ pool, s.pool = some pool
  size : s.poolSize = settings.maxConnections
  queries : ∀ operation ≠ .probe, ∀ world, (Command.operate operation).next s world = s
  status : ∀ world, Command.status.next s world = s
  connects : ∀ world, Command.connect.result s world = .ok () →
    ∃ pool, Command.connect.next s world = { s with pool := some pool }
  unconnected : ∀ world fault, Command.connect.result s world = .error fault →
    Command.connect.next s world = s
  probes : ∀ world, ∃ reached,
    (Command.operate .probe).next s world = { s with connected := reached } ∧
      ((Command.operate .probe).result s world = .ok () → reached = true)
  closes : ∀ world, Command.close.result s world = .ok () →
    Command.close.next s world = { s with pool := none, connected := false }
  unclosed : ∀ world fault, Command.close.result s world = .error fault →
    Command.close.next s world = s
  /-- What was closed is not closed again. -/
  closesOnce : ∀ world, Command.close.result s world = .ok () → ∀ later,
    Command.close.calls (Command.close.next s world) later = [] ∧
      Command.close.result (Command.close.next s world) later = .ok ()
  silent : s.pool = none → ∀ operation world, (Command.operate operation).calls s world = []

theorem Sound.framed (hs : Sound settings s) : Framed settings s := by
  have hclosed (world : World) (hresult : Command.close.result s world = .ok ()) :
      Command.close.next s world = { s with pool := none, connected := false } := by
    have hchanges := Command.close.changes s world
    rw [hresult] at hchanges
    exact hchanges.closed hs
  constructor
  case opened => exact hs.opened
  case size => rw [poolSize, hs.settings]
  case queries => exact fun operation hother world => Operation.run_keeps hother ⟨s, world⟩
  case status => exact fun world => rfl
  case connects =>
    intro world hresult
    have hchanges := Command.connect.changes s world
    rw [hresult] at hchanges
    exact hchanges.connected
  case unconnected =>
    intro world fault hresult
    have hchanges := Command.connect.changes s world
    rw [hresult] at hchanges
    exact hchanges.unconnected
  case probes => exact fun world => ((Command.operate .probe).changes s world).probed
  case closes => exact hclosed
  case unclosed =>
    intro world fault hresult
    have hchanges := Command.close.changes s world
    rw [hresult] at hchanges
    exact hchanges.unclosed
  case closesOnce =>
    intro world hresult later
    have hpool : (Command.close.next s world).pool = none := by rw [hclosed world hresult]
    exact (Command.close.changes _ later).close_silent hpool
  case silent =>
    exact fun hpool operation world => ((Command.operate operation).changes s world).operate_silent
      hpool

/-- Whatever a new service is told, and whatever the world replies each time, it is connected only
while a pool is open, and its pool has the size that is set. Queries, look-ups and the status change
nothing. Connecting changes the pool, if it returns; a probe changes whether there is a connection;
closing takes both away, if it returns, and is then done. Without a pool no call is made. -/
theorem states_framed (settings : Settings) (commands : List (Command × World)) :
    Framed settings ((new settings).after commands) :=
  ((sound_new settings).after commands).framed

/-- A service that could not be closed is connected still. -/
example :
    ((new ⟨"postgresql://localhost:5432/test", false, 10, 30, 30000, false, none, false⟩).after
      [(.connect, {}), (.operate .probe, {}),
        (.close, { script := { closePool := [some (.error (.exit 1))] } })]).connected = true := by
  rfl

end QueryGate.Service
