import QueryGate.Proofs.Database.Balance
import QueryGate.Proofs.Database.Parts
import QueryGate.Proofs.World.Keeping

/-!
# Reaching the database

The database is reached when a pool was opened and a probe on it succeeded. The calls are then
known one by one. If it is not reached, there are only calls of these kinds. No other call is made
on the way, and all records go to the channel of the database.
-/

namespace QueryGate

open Behaviour QueryGate.Text

variable {σ α : Type}

/-- The call opens a pool or is made with a connection of one. -/
def Call.isReaching : Call → Bool
  | .openPool _ | .checkOut _ | .giveBack _ => true
  | call => call.isWork

/-- All calls are made to reach the database. -/
def Reaching (events : List Event) : Prop := ∀ event ∈ events, event.call.isReaching = true

theorem Reaching.nil : Reaching [] := fun _ hmem => by cases hmem

theorem Reaching.cons {event : Event} {events : List Event} (h : event.call.isReaching = true)
    (hevents : Reaching events) : Reaching (event :: events) :=
  List.forall_mem_cons.mpr ⟨h, hevents⟩

theorem Reaching.append {events more : List Event} (h : Reaching events) (hmore : Reaching more) :
    Reaching (events ++ more) := List.forall_mem_append.mpr ⟨h, hmore⟩

theorem Call.isReaching_of_isWork {call : Call} (h : call.isWork = true) :
    call.isReaching = true := by
  cases call <;> first | rfl | exact h

/-- A pool is opened, or it is refused. -/
inductive OpensOne (parameters : Parameters) (s : σ) :
    List Event → Except Fault Nat → σ → Prop where
  | opened (pool : Nat) :
      OpensOne parameters s [⟨.openPool parameters, .opened pool⟩] (.ok pool) s
  | refused (fault : Fault) :
      OpensOne parameters s [⟨.openPool parameters, .raised fault⟩] (.error fault) s

theorem Act.openPool_shows (parameters : Parameters) :
    (Act.openPool parameters : Act σ Nat).Shows (OpensOne parameters) := by
  have hcall (pool : Nat) : (Act.perform (.openPool parameters) () (fun _ => .opened pool)
      (·.openPool) fun rest script => { script with openPool := rest } : Act σ Unit).Shows
      (Calls (.openPool parameters) fun _ => .opened pool) := .perform
  have hcount (pool : Nat) : (do
      Act.updateWorld fun world => { world with nextPool := pool + 1 }
      return pool : Act σ Nat).Shows (ends (.ok pool)) :=
    fun stage => ⟨[], (List.append_nil stage.world.journal).symm, rfl, rfl, rfl⟩
  have hopens (pool : Nat) := (hcall pool).bind fun _ => hcount pool
  have hlooked := Shows.world.bind fun world : World => hopens world.nextPool
  refine Shows.mono hlooked ?_
  intro s events r s' hb
  cases hb with
  | stopped looked =>
    obtain ⟨-, ⟨_, hworld⟩, -⟩ := looked
    cases hworld
  | continued looked next =>
    obtain ⟨rfl, -, rfl⟩ := looked
    cases next with
    | stopped call =>
      cases call
      exact .refused _
    | continued call next =>
      cases call
      obtain ⟨rfl, rfl, rfl⟩ := next
      exact .opened _

namespace Service

/-- How the pool of a service is opened. What goes wrong before has no call. -/
inductive Opens (s : Service) : List Event → Except Fault Unit → Service → Prop where
  | unready (fault : Fault) : Opens s [] (.error fault) s
  | refused (parameters : Parameters) (fault reported : Fault) :
      Opens s [⟨.openPool parameters, .raised fault⟩] (.error reported) s
  | opened (parameters : Parameters) (pool : Nat) :
      Opens s [⟨.openPool parameters, .opened pool⟩] (.ok ()) (own pool s)

private theorem checkCertificate_shows (settings : Settings) :
    (checkCertificate settings).Shows quiet := by
  unfold checkCertificate
  cases settings.certificateFile with
  | none =>
    refine Act.Shows.pure.mono ?_
    rintro s events r s' ⟨rfl, rfl, rfl⟩
    exact ⟨rfl, rfl⟩
  | some path =>
    refine (Act.Shows.world.bind fun world => (?_ : Act.Shows _ quiet)).mono ?_
    · split
      · exact Act.Shows.pure.mono fun _ _ _ _ h => ⟨h.1, h.2.2⟩
      · exact Act.Shows.throw.mono fun _ _ _ _ h => ⟨h.1, h.2.2⟩
      · exact (Act.Shows.bind_ends log_shows .throw).mono fun _ _ _ _ h => ⟨h.1, h.2.2⟩
    · intro s events r s' hb
      cases hb with
      | stopped looked => exact ⟨looked.1, looked.2.2⟩
      | continued looked next =>
        obtain ⟨rfl, -, rfl⟩ := looked
        exact next

/-- The handler of a refused pool fails in any case. -/
private theorem poolFault_shows (fault : Fault) : (match fault with
    | .driver error => do
        log .error ("Failed to create connection pool: " ++ error.message)
        throw (.service (.connection ("Failed to connect to database: " ++ error.message)))
    | fault => throw fault : Action Nat).Shows fails := by
  have hthrow (fault : Fault) : (throw fault : Action Nat).Shows fails :=
    Act.Shows.throw.mono fun _ _ _ _ h => ⟨h.1, ⟨_, h.2.1⟩, h.2.2⟩
  cases fault with
  | driver error => exact .bind_ends log_shows (hthrow _)
  | _ => exact hthrow _

theorem connect_shows : connect.Shows Opens := by
  have hopen (parameters : Parameters) :=
    (Act.openPool_shows (σ := Service) parameters).recover poolFault_shows
  refine .bind_self fun service => ((checkCertificate_shows service.settings).bind fun _ =>
    .bind_ends logWith_shows ((hopen _).bind fun pool => Act.Shows.update)).mono ?_
  rintro s events r s' hb -
  cases hb with
  | stopped checked =>
    obtain ⟨rfl, rfl⟩ := checked
    exact .unready _
  | continued checked next =>
    obtain ⟨rfl, rfl⟩ := checked
    cases next with
    | stopped opens =>
      cases opens with
      | handled refused next =>
        cases refused
        obtain ⟨rfl, -, rfl⟩ := next
        exact .refused _ _ _
    | continued opens next =>
      obtain ⟨rfl, rfl, rfl⟩ := next
      cases opens with
      | passed opened =>
        cases opened
        exact .opened _ _
      | handled refused next =>
        obtain ⟨-, ⟨_, hfault⟩, -⟩ := next
        cases hfault

/-- The calls of a probe that succeeds. -/
def probing (pool : Nat) : List Event :=
  [⟨.checkOut pool, .done⟩, ⟨.openCursor false, .done⟩, ⟨.execute probeQuery [], .done⟩,
    ⟨.fetchOne, .done⟩, ⟨.closeCursor, .done⟩, ⟨.rollback, .done⟩, ⟨.giveBack pool, .done⟩]

theorem reaching_opening (parameters : Parameters) (pool : Nat) :
    Reaching (⟨.openPool parameters, .opened pool⟩ :: probing pool) := by
  simp [Reaching, probing, Call.isReaching, Call.isWork, Call.isStatement, Call.isOpenCursor,
    Call.isCloseCursor, Call.settles]

/-- The one statement of a probe, and its row. -/
private inductive ReadsOne (s : Service) : List Event → Except Fault Unit → Service → Prop where
  | read : ReadsOne s [⟨.execute probeQuery [], .done⟩, ⟨.fetchOne, .done⟩] (.ok ()) s
  | failed (events : List Event) (fault : Fault) (s' : Service) :
      ReadsOne s events (.error fault) s'

private theorem readsOne_shows : (do
    Act.execute probeQuery
    Act.fetchOne : Action Unit).Shows ReadsOne := by
  refine (Act.Shows.execute.bind fun _ => Act.Shows.perform).mono ?_
  intro s events r s' hb
  cases hb with
  | stopped executed => exact .failed ..
  | continued executed next =>
    cases executed
    cases next with
    | returned => exact .read
    | raised fault => exact .failed ..

private theorem connects_probing {s s' : Service} {events : List Event}
    (h : Connects (Looks false ReadsOne) s events (.ok ()) s') :
    ∃ pool, s.pool = some pool ∧ events = probing pool := by
  cases h with
  | @used pool _ _ _ hpool looks =>
    cases looks with
    | looked run =>
      cases run with
      | used reads =>
        cases reads
        exact ⟨pool, hpool, rfl⟩

/-- The handler of a failed probe fails in any case. -/
private theorem probeFault_shows (fault : Fault) : (match fault with
    | .driver error => unreachable error.code (some (trimmed error.message))
    | .service (.connection message) => unreachable none (some message)
    | fault => throw fault : Action Unit).Shows
      fun _ events r _ => events = [] ∧ ∃ fault, r = .error fault := by
  have hthrow (fault : Fault) : (throw fault : Action Unit).Shows
      fun _ events r _ => events = [] ∧ ∃ fault, r = .error fault :=
    Act.Shows.throw.mono fun _ _ _ _ h => ⟨h.1, _, h.2.1⟩
  have hunreachable (code detail : Option String) : (unreachable code detail : Action Unit).Shows
      fun _ events r _ => events = [] ∧ ∃ fault, r = .error fault :=
    fun stage => ⟨[], (List.append_nil _).symm, rfl, _, rfl⟩
  cases fault with
  | driver error => exact hunreachable _ _
  | service error => cases error with
    | connection message => exact hunreachable _ _
    | _ => exact hthrow _
  | _ => exact hthrow _

theorem probe_calls : probe.Shows fun s events r _ =>
    r = .ok () → ∃ pool, s.pool = some pool ∧ events = probing pool := by
  have hlook : (do
      withCursor false do
        Act.execute probeQuery
        Act.fetchOne
      Act.rollback : Action Unit).Shows (Looks false ReadsOne) := by
    have hlooks := looks_shows false readsOne_shows
    simpa only [bind_pure_unit] using hlooks
  refine (((withConnection_shows hlook).recover probeFault_shows).bind fun _ =>
    Act.Shows.update.bind fun _ => log_shows).mono ?_
  rintro s events r s' hb rfl
  cases hb with
  | continued first next =>
    cases next with
    | continued update logged =>
      obtain ⟨rfl, -, -⟩ := update
      obtain ⟨rfl, -, -⟩ := logged
      cases first with
      | passed run => simpa using connects_probing run
      | handled run failed =>
        obtain ⟨-, _, hfault⟩ := failed
        cases hfault

theorem UsesConnection.reaching {commits : Bool} {s : Service} {events : List Event}
    (h : UsesConnection commits s events) : Reaching events := by
  cases h with
  | idle => exact .nil
  | refused hpool fault => exact .cons rfl .nil
  | used hpool work ending =>
    have hwork : Reaching _ := fun event hmem => Call.isReaching_of_isWork (work.isWork event hmem)
    exact .cons rfl (hwork.append (.cons rfl .nil))

/-- How the database is reached, or not. -/
inductive Reaches (s : Service) : List Event → Except Fault Unit → Service → Prop where
  | unreached {events : List Event} (hcalls : Reaching events) (fault : Fault) (s' : Service) :
      Reaches s events (.error fault) s'
  | reached (parameters : Parameters) {pool : Nat} {s' : Service} (hpool : s'.pool = some pool) :
      Reaches s (⟨.openPool parameters, .opened pool⟩ :: probing pool) (.ok ()) s'

theorem reach_shows : (do connect; probe : Action Unit).Shows Reaches := by
  have hkeeps : probe.Shows fun s events r s' => s'.pool = s.pool := by
    intro stage
    obtain ⟨events, hjournal, -⟩ := probe_calls stage
    exact ⟨events, hjournal, congrArg Prod.fst (probe_keepsPool stage)⟩
  refine (connect_shows.bind fun _ => (probe_usesConnection.and probe_calls).and hkeeps).mono ?_
  intro s events r s' hb
  cases hb with
  | stopped opens =>
    cases opens with
    | unready fault => exact .unreached .nil _ _
    | refused parameters fault reported => exact .unreached (.cons rfl .nil) _ _
  | continued opens next =>
    obtain ⟨⟨huses, hprobing⟩, hpool⟩ := next
    cases opens with
    | opened parameters pool =>
      cases r with
      | error fault => exact .unreached (.cons rfl huses.reaching) _ _
      | ok _ =>
        obtain ⟨probed, hprobed, rfl⟩ := hprobing rfl
        obtain rfl : pool = probed := by simpa [own] using hprobed
        exact .reached parameters (hpool.trans hprobed)

theorem reach_sent {kind : Log.Record → Bool}
    (hkind : ∀ record, IsOwn record → kind record = false) :
    (do connect; probe : Action Unit).KeepsStage (Stage.sent kind) := by
  have hinherited := (Act.Inherited.keepsSent (σ := Service) kind).narrow hkind
  exact .bind (inherited_connect hinherited (fun _ => trivial) (fun _ => .openPool_sent)
    fun _ => .update_sent) fun _ => inherited_probe hinherited fun _ => .update_sent

end Service

end QueryGate
