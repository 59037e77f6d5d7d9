import Mathlib.Data.List.Nodup
import QueryGate.Proofs.Database.Parts
import QueryGate.Proofs.Server.Coherence

/-!
# Pools over whole runs

A pool that was opened should be closed, unless it is that of the server's service. Two start-ups
leave a pool behind: one that fails after it opened its pool, and one that replaces a service which
still has a pool. A clean-up leaves one behind only if the pool cannot be closed. In every run each
pool is accounted for once: it was closed, or the server holds it, or it was left behind by a
request in one of these ways.
-/

namespace QueryGate.Server

/-- The pool of the server's service, if there is one. -/
def held (server : Server) : List Nat := (server.service.bind Service.pool).toList

/-- Every pool that was opened was closed, unless the server holds it. -/
def NoneLeaked (stage : Stage Server) : Prop :=
  ∀ pool ∈ openedPools stage.world.journal,
    pool ∈ closedPools stage.world.journal ∨ pool ∈ held stage.self

def openedSince (before after : World) : List Nat :=
  (openedPools after.journal).drop (openedPools before.journal).length

def closedSince (before after : World) : List Nat :=
  (closedPools after.journal).drop (closedPools before.journal).length

/-- A start-up that fails leaves the pool that it opened, and a start-up that returns leaves the
pool of the service that it replaces. -/
def leftByStartUp (given : Option Settings) (stage : Stage Server) : List Nat :=
  match (startUp given).start stage with
  | (.error _, final) => openedSince stage.world final.world
  | (.ok _, _) => held stage.self

/-- A clean-up that lets the service go leaves its pool unless it closed the pool. -/
def leftByCleanUp (stage : Stage Server) : List Nat :=
  match cleanUp.start stage with
  | (.error _, _) => []
  | (.ok _, final) => (held stage.self).diff (closedSince stage.world final.world)

/-- An initialisation starts up only a server that lacks a part. -/
def leftByInitialisation (stage : Stage Server) : List Nat :=
  match stage.self.service, stage.self.gate with
  | some _, some _ => []
  | _, _ => leftByStartUp stage.self.settings stage

def leftBy (stage : Stage Server) : Request → List Nat
  | .startUp given => leftByStartUp given stage
  | .cleanUp => leftByCleanUp stage
  | _ => leftByInitialisation stage

/-- The pools that the requests left behind, the last request first. -/
def abandoned (past : List (Stage Server × Request)) : List Nat :=
  past.flatMap fun (stage, request) => leftBy stage request

/-- Every opened pool is in one of three places, and in that only once. -/
structure Accounted (pools : Pools) (held left : List Nat) : Prop where
  numbered : ∀ pool ∈ pools.opened, pool < pools.next
  distinct : pools.opened.Nodup
  placed : pools.opened.Perm (pools.closed ++ (held ++ left))

namespace Accounted

variable {pools : Pools} {held left : List Nat}

theorem next_notMem (h : Accounted pools held left) : pools.next ∉ pools.opened :=
  fun hmem => Nat.lt_irrefl _ (h.numbered _ hmem)

/-- Wherever the next pool goes, the others stay accounted for. -/
theorem openNext {held' left' : List Nat} (h : Accounted pools held left)
    (hplaces : (pools.next :: (held ++ left)).Perm (held' ++ left')) :
    Accounted pools.openNext held' left' where
  numbered := by
    intro pool hmem
    rcases List.mem_append.mp hmem with hold | hnew
    · exact Nat.lt_succ_of_lt (h.numbered pool hold)
    · obtain rfl : pool = pools.next := List.mem_singleton.mp hnew
      exact Nat.lt_succ_self _
  distinct :=
    h.distinct.append (List.nodup_singleton _) (List.disjoint_singleton.mpr h.next_notMem)
  placed := by
    have hmoved : (pools.closed ++ (held ++ left) ++ [pools.next]).Perm
        (pools.closed ++ (pools.next :: (held ++ left))) := by
      rw [List.append_assoc]
      exact (List.perm_append_singleton _ _).append_left _
    exact ((h.placed.append_right _).trans hmoved).trans (hplaces.append_left _)

theorem close {pool : Nat} (h : Accounted pools [pool] left) :
    Accounted (pools.close pool) [] left where
  numbered := h.numbered
  distinct := h.distinct
  placed := by
    have hplaced := h.placed
    rw [← List.append_assoc] at hplaced
    exact hplaced

theorem letGo (h : Accounted pools held left) : Accounted pools [] (held ++ left) where
  numbered := h.numbered
  distinct := h.distinct
  placed := h.placed

end Accounted

/-- What a start-up does with the pools and the service. -/
inductive StartsPools (s : Server) (pools : Pools) :
    Except Fault (Service × Gate) → Server → Pools → Prop where
  | unopened (fault : Fault) {s' : Server} (hkept : s'.service = s.service) :
      StartsPools s pools (.error fault) s' pools
  | unreached (fault : Fault) {s' : Server} (hkept : s'.service = s.service) :
      StartsPools s pools (.error fault) s' pools.openNext
  | reached {s' : Server} {service : Service} {gate : Gate} (hservice : s'.service = some service)
      (hpool : service.pool = some pools.next) :
      StartsPools s pools (.ok (service, gate)) s' pools.openNext

theorem startUp_startsPools (given : Option Settings) (stage : Stage Server) :
    StartsPools stage.self stage.world.pools ((startUp given).start stage).1
      ((startUp given).start stage).2.self ((startUp given).start stage).2.world.pools := by
  rw [startUp, Act.start_bind, start_chooseSettings]
  cases chosenSettings given stage.world.environment with
  | error fault => exact .unopened fault rfl
  | ok settings =>
    have hopening := Service.opening_pools settings stage.world
    dsimp only
    rw [Act.start_bind, Act.start_update]
    dsimp only
    rw [Act.start_bind, Act.start_onOther]
    rcases hopened : (do Service.connect; Service.probe : Service.Action Unit).start
      ⟨Service.new settings, stage.world⟩ with ⟨result, opened⟩
    rw [hopened] at hopening
    rcases hopening with ⟨fault, hresult, hpools⟩ | ⟨hresult, hpool, hpools⟩
    · obtain rfl : result = .error fault := hresult
      rcases hpools with hsame | hnext
      · exact hsame ▸ .unopened fault rfl
      · exact hnext ▸ .unreached fault rfl
    · obtain rfl : result = .ok () := hresult
      have hnext : opened.world.pools = stage.world.pools.openNext := hpools
      have hreached (s' : Server) (gate : Gate) (hservice : s'.service = some opened.self) :
          StartsPools stage.self stage.world.pools (.ok (opened.self, gate)) s'
            opened.world.pools := hnext ▸ .reached hservice hpool
      cases settings.allowWrites <;> exact hreached _ _ rfl

theorem accounted_startUp (given : Option Settings) {stage : Stage Server} {left : List Nat}
    (h : Accounted stage.world.pools (held stage.self) left) :
    Accounted ((startUp given).start stage).2.world.pools
      (held ((startUp given).start stage).2.self) (leftByStartUp given stage ++ left) := by
  have hstarts := startUp_startsPools given stage
  rw [leftByStartUp]
  rcases hstart : (startUp given).start stage with ⟨result, self, world⟩
  rw [hstart] at hstarts
  dsimp only at hstarts ⊢
  generalize hpools : world.pools = pools at hstarts ⊢
  have hopened : openedPools world.journal = pools.opened := congrArg Pools.opened hpools
  cases hstarts with
  | unopened fault hkept =>
    have hnone : openedSince stage.world world = [] := by
      rw [openedSince, hopened]
      exact List.drop_length
    dsimp only
    rw [hnone, held, hkept]
    exact h
  | unreached fault hkept =>
    have hnext : openedSince stage.world world = [stage.world.pools.next] := by
      rw [openedSince, hopened]
      exact List.drop_left
    dsimp only
    rw [hnext, held, hkept]
    exact h.openNext List.perm_middle.symm
  | reached hservice hpool =>
    have hheld : held self = [stage.world.pools.next] := by
      rw [held, hservice, Option.bind_some, hpool]
      rfl
    rw [hheld]
    exact h.openNext (List.Perm.refl _)

theorem accounted_ensureInitialized {stage : Stage Server} {left : List Nat}
    (h : Accounted stage.world.pools (held stage.self) left) :
    Accounted (ensureInitialized.start stage).2.world.pools
      (held (ensureInitialized.start stage).2.self) (leftByInitialisation stage ++ left) := by
  rw [leftByInitialisation]
  rcases ensureInitialized_cases stage with ⟨service, gate, hservice, hgate, hstart⟩ |
    ⟨hlacks, hstart⟩
  · rw [hstart, hservice, hgate]
    exact h
  · rw [hstart]
    have hstarts := accounted_startUp stage.self.settings h
    rcases hlacks with hservice | hgate
    · rw [hservice]
      exact hstarts
    · rw [hgate]
      cases stage.self.service <;> exact hstarts

theorem accounted_handle (inquiry : Inquiry) {stage : Stage Server} {left : List Nat}
    (h : Accounted stage.world.pools (held stage.self) left) :
    Accounted (inquiry.handle.start stage).2.world.pools (held (inquiry.handle.start stage).2.self)
      (leftByInitialisation stage ++ left) := by
  have hinit := accounted_ensureInitialized h
  have hlasting := inquiry.handle_lasting stage
  simp only [Stage.lasting, Prod.mk.injEq] at hlasting
  rw [hlasting.1, hlasting.2]
  exact hinit

theorem cleanUp_keepsNext : cleanUp.KeepsStage fun stage => stage.world.nextPool := by
  have hclosePool (pool : Nat) :
      (Act.closePool pool : Service.Action Unit).KeepsStage fun stage => stage.world.nextPool := by
    intro stage
    rw [Act.closePool, Act.perform, Act.start_bind, Act.start_world]
    simp only [Act.start_bind, Act.start_updateWorld]
    cases stage.world.script.closePool.head?.join with
    | none => rfl
    | some reply => cases reply <;> rfl
  have hclose : Service.close.KeepsStage fun stage => stage.world.nextPool := by
    refine .bind .self fun service => ?_
    cases service.pool with
    | none => exact .pure
    | some pool => exact .bind (hclosePool pool) fun _ => .bind (fun _ => rfl) fun _ _ => rfl
  refine .bind (fun _ => rfl) fun _ => .bind .self fun server => ?_
  cases server.service with
  | none => exact fun _ => rfl
  | some service =>
    have honService : (onService service Service.close).KeepsStage
        fun stage => stage.world.nextPool := fun stage => hclose ⟨service, stage.world⟩
    refine .bind (.recover honService fun fault => ?_) fun _ => .bind (fun _ => rfl) fun _ _ => rfl
    cases fault.isException with
    | true => exact fun _ => rfl
    | false => exact .throw

theorem accounted_cleanUp {stage : Stage Server} {left : List Nat}
    (h : Accounted stage.world.pools (held stage.self) left) :
    Accounted (cleanUp.start stage).2.world.pools (held (cleanUp.start stage).2.self)
      (leftByCleanUp stage ++ left) := by
  obtain ⟨events, hjournal, hcleans⟩ := cleanUp_shows stage
  have hnext := cleanUp_keepsNext stage
  rw [leftByCleanUp]
  rcases hclean : cleanUp.start stage with ⟨result, self, world⟩
  rw [hclean] at hjournal hcleans hnext
  dsimp only at hjournal hcleans hnext ⊢
  have hpools : world.pools = ⟨stage.world.nextPool, stage.world.pools.opened ++ openedPools events,
      stage.world.pools.closed ++ closedPools events⟩ := by
    simp [World.pools, hnext, hjournal, openedPools, closedPools]
  have hquiet (hopens : openedPools events = []) (hcloses : closedPools events = []) :
      world.pools = stage.world.pools := by
    rw [hpools, hopens, hcloses, List.append_nil, List.append_nil]
    rfl
  have hclosed (pool : Nat) (hopens : openedPools events = [])
      (hcloses : closedPools events = [pool]) : world.pools = stage.world.pools.close pool := by
    rw [hpools, hopens, hcloses, List.append_nil]
    rfl
  have hsince : closedSince stage.world world = closedPools events := by
    simp [closedSince, hjournal, closedPools]
  have hheld {service : Service} (hservice : stage.self.service = some service) :
      held stage.self = service.pool.toList := by rw [held, hservice, Option.bind_some]
  cases hcleans with
  | idle hservice =>
    have hnone : held stage.self = [] := by rw [held, hservice]; rfl
    rw [hquiet rfl rfl, hnone]
    dsimp only
    rw [List.nil_diff]
    rwa [hnone] at h
  | @released service _ _ _ hservice closes hr =>
    have hnone : held { stage.self with service := none } = [] := rfl
    dsimp only
    rw [hsince, hnone, hheld hservice]
    rw [hheld hservice] at h
    cases closes with
    | idle hpool =>
      rw [hquiet rfl rfl, hpool]
      rwa [hpool] at h
    | @closed pool hpool =>
      have hremoved :
          (some pool).toList.diff (closedPools [⟨.closePool pool, .done⟩]) = [] := by
        change [pool].diff [pool] = []
        simp
      rw [hpool] at h
      rw [hclosed pool rfl rfl, hpool, hremoved]
      exact h.close
    | failed hpool fault =>
      rw [hquiet rfl rfl]
      exact h.letGo
  | @interrupted service _ _ _ hservice closes hfault =>
    cases closes with
    | failed hpool fault =>
      have hsame : held { stage.self with service := some service } = held stage.self := by
        rw [held, held, hservice]
      rw [hquiet rfl rfl, hsame]
      exact h

theorem accounted_serve (request : Request) {stage : Stage Server} {left : List Nat}
    (h : Accounted stage.world.pools (held stage.self) left) :
    Accounted (request.serve.start stage).2.world.pools (held (request.serve.start stage).2.self)
      (leftBy stage request ++ left) := by
  cases request with
  | startUp given =>
    rw [Request.serve, start_discard]
    exact accounted_startUp given h
  | query sql =>
    rw [Request.serve, start_discard]
    exact accounted_handle (.query sql) h
  | tables =>
    rw [Request.serve, start_discard]
    exact accounted_handle .tables h
  | tableDetails schema table =>
    rw [Request.serve, start_discard]
    exact accounted_handle (.tableDetails schema table) h
  | cleanUp => exact accounted_cleanUp h

/-- The stage at which a history begins. -/
def beginning (stage : Stage Server) : List (Stage Server × Request) → Stage Server
  | [] => stage
  | (first, _) :: past => beginning first past

theorem History.accounted {past : List (Stage Server × Request)} {stage : Stage Server}
    (h : History past stage) (hfresh : (beginning stage past).world.journal = []) :
    Accounted stage.world.pools (held stage.self) (abandoned past) := by
  induction h with
  | fresh world =>
    have hjournal : world.journal = [] := hfresh
    have hpools : world.pools = ⟨world.nextPool, [], []⟩ := by
      rw [World.pools, hjournal]
      rfl
    rw [hpools]
    exact ⟨by simp, List.nodup_nil, List.Perm.refl _⟩
  | @request past stage history surroundings next ih =>
    have hbegun : (beginning stage past).world.journal = [] := by
      cases past with
      | nil => exact hfresh
      | cons last past => exact hfresh
    exact accounted_serve next (ih hbegun)

/-- In every run from an empty journal, under every script of replies, each pool was opened once,
and it was closed, is held by the server, or was left behind by a request. So no pool leaked
exactly if no request left one behind. -/
theorem History.pools_accounted {past : List (Stage Server × Request)} {stage : Stage Server}
    (h : History past stage) (hfresh : (beginning stage past).world.journal = []) :
    (openedPools stage.world.journal).Nodup ∧
    (openedPools stage.world.journal).Perm
      (closedPools stage.world.journal ++ (held stage.self ++ abandoned past)) ∧
    (NoneLeaked stage ↔ abandoned past = []) := by
  obtain ⟨-, hdistinct, hplaced⟩ := h.accounted hfresh
  have hdistinct : (openedPools stage.world.journal).Nodup := hdistinct
  have hplaced : (openedPools stage.world.journal).Perm
    (closedPools stage.world.journal ++ (held stage.self ++ abandoned past)) := hplaced
  refine ⟨hdistinct, hplaced, ?_⟩
  rw [← List.append_assoc] at hplaced
  constructor
  · intro hnone
    have hparts : (closedPools stage.world.journal ++ held stage.self).Disjoint (abandoned past) :=
      (List.nodup_append'.mp (hplaced.nodup_iff.mp hdistinct)).2.2
    refine List.eq_nil_iff_forall_not_mem.mpr fun pool hleft => ?_
    have hopened : pool ∈ openedPools stage.world.journal :=
      hplaced.mem_iff.mpr (List.mem_append_right _ hleft)
    exact hparts (List.mem_append.mpr (hnone pool hopened)) hleft
  · intro hleft pool hopened
    have hmem := hplaced.mem_iff.mp hopened
    rw [hleft, List.append_nil] at hmem
    exact List.mem_append.mp hmem

/-- A server that started up in a fresh world and was cleaned up again. -/
def cleanedStage : Stage Server :=
  (Request.cleanUp.serve.start (Surroundings.enter {} startedStage)).2

theorem cleanedStage_noneLeaked : NoneLeaked cleanedStage := by
  have hstarted : History [(Surroundings.enter {} ⟨{}, {}⟩, .startUp (some localSettings))]
      startedStage := .request (.fresh {}) {} (.startUp (some localSettings))
  have hcleaned : History [(Surroundings.enter {} startedStage, .cleanUp),
      (Surroundings.enter {} ⟨{}, {}⟩, .startUp (some localSettings))] cleanedStage :=
    .request hstarted {} .cleanUp
  exact (hcleaned.pools_accounted rfl).2.2.mpr rfl

/-- A server whose start-up failed at the probe. -/
def unprobedStage : Stage Server :=
  ((Request.startUp (some localSettings)).serve.start
    (Surroundings.enter { script := { execute := [some (.error refusal)] } } ⟨{}, {}⟩)).2

/-- The same server after a clean-up. -/
def strandedStage : Stage Server :=
  (Request.cleanUp.serve.start (Surroundings.enter {} unprobedStage)).2

/-- A pool whose probe failed is in no service, and no clean-up closes it. -/
theorem strandedStage_leaked :
    (∃ past, History past strandedStage ∧ (beginning strandedStage past).world.journal = []) ∧
    (∀ pool fault, ⟨.closePool pool, .raised fault⟩ ∉ strandedStage.world.journal) ∧
    strandedStage.self.service = none ∧ ¬ NoneLeaked strandedStage := by
  have hopened : openedPools strandedStage.world.journal = [0] := rfl
  have hclosed : closedPools strandedStage.world.journal = [] := rfl
  have hcalls : strandedStage.world.journal.map Event.call =
      [.openPool ([("minconn", .value (.int 1)), ("maxconn", .value (.int 10))] ++
        localSettings.connectionParameters), .checkOut 0, .openCursor false,
       .execute Service.probeQuery [], .closeCursor, .giveBack 0] := rfl
  refine ⟨⟨_, .request (.request (.fresh {}) _ (.startUp (some localSettings))) _ .cleanUp, rfl⟩,
    ?_, rfl, ?_⟩
  · intro pool fault hmem
    have hcall : Call.closePool pool ∈ strandedStage.world.journal.map Event.call :=
      List.mem_map_of_mem hmem
    simp [hcalls] at hcall
  · intro hnone
    have hheld : held strandedStage.self = [] := rfl
    have hplaces := hnone 0 (by rw [hopened]; exact List.mem_singleton_self 0)
    rw [hclosed, hheld] at hplaces
    simp at hplaces

end QueryGate.Server
