import QueryGate.Proofs.Server.Requests
import QueryGate.Proofs.World.Behaviour
import QueryGate.Server.Basic

/-!
# Coherence over whole runs

A history is a sequence of requests to a fresh server, each in surroundings of its own: any
environment, any files, any time, and any script of replies. What one request leaves of the server
and of the journal is what the next one finds.

The parts of the server are coherent if the service was made with the server's settings and the
gate goes with them. A start-up that does not reach the database replaces settings and gate, and
leaves an older service where it is. So after any requests the parts are coherent exactly if there
is no service, or the start-up that made the service and the last start-up that took settings took
the same.
-/

namespace QueryGate.Server

inductive Request where
  | startUp (given : Option Settings)
  | query (sql : String)
  | tables
  | tableDetails (schema table : String)
  | cleanUp

def Request.serve : Request → Action Unit
  | .startUp given => do let _ ← Server.startUp given
  | .query sql => do let _ ← handleQuery sql
  | .tables => do let _ ← handleTables
  | .tableDetails schema table => do let _ ← handleTableDetails schema table
  | .cleanUp => Server.cleanUp

theorem start_discard {α : Type} (act : Action α) (stage : Stage Server) :
    ((do let _ ← act : Action Unit).start stage).2 = (act.start stage).2 := by
  rw [Act.start_bind]
  rcases act.start stage with ⟨result | result, mid⟩ <;> rfl

/-- What may have changed around the server before a request. -/
structure Surroundings where
  environment : Environment := []
  disk : Disk := {}
  today : Calendar.DateTime := Calendar.DateTime.ofEpochMillis 0
  script : Script := {}

/-- The stage in new surroundings. The journal, the log and the numbers of pools go on. -/
def Surroundings.enter (surroundings : Surroundings) (stage : Stage Server) : Stage Server :=
  ⟨stage.self,
    { stage.world with
      environment := surroundings.environment
      disk := surroundings.disk
      today := surroundings.today
      script := surroundings.script }⟩

/-- The requests that were served, the last one first, each with the stage that it came to, and
the stage after them. -/
inductive History : List (Stage Server × Request) → Stage Server → Prop where
  | fresh (world : World) : History [] ⟨{}, world⟩
  | request {past : List (Stage Server × Request)} {stage : Stage Server}
      (history : History past stage) (surroundings : Surroundings) (next : Request) :
      History ((surroundings.enter stage, next) :: past)
        (next.serve.start (surroundings.enter stage)).2

/-- The service was made with the settings of the server, and the gate goes with them. -/
def Coherent (server : Server) : Prop :=
  ∀ service gate, server.service = some service → server.gate = some gate →
    server.settings = some service.settings ∧ gate.allowWrites = service.settings.allowWrites

/-- What is remembered of a run: the settings of the last start-up that took any, and those of
the last start-up that reached the database, unless the server was cleaned up after it. -/
structure Trail where
  tried : Option Settings
  reached : Option Settings

def Trail.startUp (trail : Trail) (given : Option Settings) (stage : Stage Server) : Trail :=
  match chosenSettings given stage.world.environment with
  | .error _ => trail
  | .ok settings => match ((Server.startUp given).start stage).1 with
    | .error _ => { trail with tried := some settings }
    | .ok _ => ⟨some settings, some settings⟩

/-- The trail after an initialisation, which starts up only a server that lacks a part. -/
def Trail.prepare (trail : Trail) (stage : Stage Server) : Trail :=
  match stage.self.service, stage.self.gate with
  | some _, some _ => trail
  | _, _ => trail.startUp stage.self.settings stage

/-- The trail after a clean-up, which only an interrupt or an exit can end early. -/
def Trail.cleanUp (trail : Trail) (stage : Stage Server) : Trail :=
  match (Server.cleanUp.start stage).1 with
  | .error _ => trail
  | .ok () => { trail with reached := none }

def Trail.after (trail : Trail) (stage : Stage Server) : Request → Trail
  | .startUp given => trail.startUp given stage
  | .cleanUp => trail.cleanUp stage
  | _ => trail.prepare stage

/-- The trail of the requests that were served, the last one first. -/
def trailOf : List (Stage Server × Request) → Trail
  | [] => ⟨none, none⟩
  | (stage, request) :: past => (trailOf past).after stage request

def makeup (server : Server) : Option Settings × Option Gate × Option Settings :=
  (server.settings, server.gate, server.service.map Service.settings)

def Trail.makeup (trail : Trail) : Option Settings × Option Gate × Option Settings :=
  (trail.tried, trail.tried.map gateOf, trail.reached)

theorem makeup_startUp (given : Option Settings) {stage : Stage Server} {trail : Trail}
    (h : makeup stage.self = trail.makeup) :
    makeup ((startUp given).start stage).2.self = (trail.startUp given stage).makeup := by
  have hstarts := startUp_startsUp given stage
  rw [Trail.startUp]
  generalize ((startUp given).start stage).2.self = server at hstarts ⊢
  generalize ((startUp given).start stage).1 = result at hstarts ⊢
  cases hstarts with
  | unsettled hchosen => simpa [hchosen] using h
  | unreached hchosen fault =>
    simp only [makeup, Trail.makeup, Prod.mk.injEq] at h
    simp [hchosen, makeup, Trail.makeup, h.2.2]
  | reached hchosen hservice => simp [hchosen, makeup, Trail.makeup, hservice]

theorem makeup_ensureInitialized {stage : Stage Server} {trail : Trail}
    (h : makeup stage.self = trail.makeup) :
    makeup (ensureInitialized.start stage).2.self = (trail.prepare stage).makeup := by
  have hmakeup := makeup_startUp stage.self.settings h
  rcases ensureInitialized_cases stage with ⟨service, gate, hservice, hgate, hstart⟩ |
    ⟨hlacks, hstart⟩
  · rw [Trail.prepare, hstart, hservice, hgate]
    exact h
  · rw [← hstart] at hmakeup
    rw [hmakeup, Trail.prepare]
    rcases hlacks with hservice | hgate
    · rw [hservice]
    · rw [hgate]
      cases stage.self.service <;> rfl

theorem makeup_handle (inquiry : Inquiry) {stage : Stage Server} {trail : Trail}
    (h : makeup stage.self = trail.makeup) :
    makeup (inquiry.handle.start stage).2.self = (trail.prepare stage).makeup := by
  have hself : (inquiry.handle.start stage).2.self = (ensureInitialized.start stage).2.self :=
    congrArg Prod.fst (inquiry.handle_lasting stage)
  rw [hself, makeup_ensureInitialized h]

private theorem makeup_cleanUp {stage : Stage Server} {trail : Trail}
    (h : makeup stage.self = trail.makeup) :
    makeup (Server.cleanUp.start stage).2.self = (trail.cleanUp stage).makeup := by
  obtain ⟨events, -, hcleans⟩ := cleanUp_shows stage
  rw [Trail.cleanUp]
  generalize (Server.cleanUp.start stage).2.self = server at hcleans ⊢
  generalize (Server.cleanUp.start stage).1 = result at hcleans ⊢
  have hparts := h
  simp only [makeup, Trail.makeup, Prod.mk.injEq] at hparts
  obtain ⟨hsettings, hgate, hreached⟩ := hparts
  cases hcleans with
  | idle hservice => simp [makeup, Trail.makeup, hsettings, hgate, hservice]
  | released hservice closes hr => simp [makeup, Trail.makeup, hsettings, hgate]
  | interrupted hservice closes hfault =>
    cases closes with
    | failed hpool fault =>
      rw [hservice] at hreached
      simpa [makeup, Trail.makeup, hsettings, hgate] using hreached

/-- Every request leads to the makeup of its trail. -/
theorem makeup_serve (request : Request) {stage : Stage Server} {trail : Trail}
    (h : makeup stage.self = trail.makeup) :
    makeup (request.serve.start stage).2.self = (trail.after stage request).makeup := by
  cases request with
  | startUp given =>
    rw [Request.serve, start_discard]
    exact makeup_startUp given h
  | query sql =>
    rw [Request.serve, start_discard]
    exact makeup_handle (.query sql) h
  | tables =>
    rw [Request.serve, start_discard]
    exact makeup_handle .tables h
  | tableDetails schema table =>
    rw [Request.serve, start_discard]
    exact makeup_handle (.tableDetails schema table) h
  | cleanUp => exact makeup_cleanUp h

theorem History.makeup_eq {past : List (Stage Server × Request)} {stage : Stage Server}
    (h : History past stage) : makeup stage.self = (trailOf past).makeup := by
  induction h with
  | fresh world => rfl
  | request history surroundings next ih => exact makeup_serve next ih

/-- Nothing reached the database before settings were taken. -/
def Trail.Sound (trail : Trail) : Prop := trail.tried = none → trail.reached = none

theorem Trail.Sound.startUp {trail : Trail} (h : trail.Sound) (given : Option Settings)
    (stage : Stage Server) : (trail.startUp given stage).Sound := by
  rw [Trail.startUp]
  cases chosenSettings given stage.world.environment with
  | error fault => exact h
  | ok settings =>
    cases ((Server.startUp given).start stage).1 with
    | error fault => simp [Trail.Sound]
    | ok parts => simp [Trail.Sound]

theorem Trail.Sound.prepare {trail : Trail} (h : trail.Sound) (stage : Stage Server) :
    (trail.prepare stage).Sound := by
  rw [Trail.prepare]
  split
  · exact h
  · exact h.startUp _ _

theorem Trail.Sound.after {trail : Trail} (h : trail.Sound) (stage : Stage Server)
    (request : Request) : (trail.after stage request).Sound := by
  cases request with
  | startUp given => exact h.startUp given stage
  | cleanUp =>
    rw [Trail.after, Trail.cleanUp]
    cases (Server.cleanUp.start stage).1 with
    | error fault => exact h
    | ok _ => exact fun _ => rfl
  | _ => exact h.prepare stage

theorem trailOf_sound (past : List (Stage Server × Request)) : (trailOf past).Sound := by
  induction past with
  | nil => exact fun _ => rfl
  | cons last past ih => exact ih.after last.1 last.2

/-- In every run, under every script of replies, the gate goes with the settings of the server,
which are those that were taken last, and the service was made with those that last reached the
database. So the parts are coherent exactly if there is no service or both are the same. -/
theorem History.coherent_iff {past : List (Stage Server × Request)} {stage : Stage Server}
    (h : History past stage) :
    (stage.self.settings = (trailOf past).tried ∧
      stage.self.gate = (trailOf past).tried.map gateOf ∧
      stage.self.service.map Service.settings = (trailOf past).reached) ∧
    (Coherent stage.self ↔
      (trailOf past).reached = none ∨ (trailOf past).reached = (trailOf past).tried) := by
  have hmakeup := h.makeup_eq
  have hsound := trailOf_sound past
  generalize trailOf past = trail at hmakeup hsound ⊢
  simp only [makeup, Trail.makeup, Prod.mk.injEq] at hmakeup
  refine ⟨hmakeup, ?_⟩
  obtain ⟨hsettings, hgate, hservice⟩ := hmakeup
  constructor
  · intro hcoherent
    cases hreached : trail.reached with
    | none => exact .inl rfl
    | some reached =>
      obtain ⟨tried, htried⟩ := Option.ne_none_iff_exists'.mp fun htried =>
        absurd (hsound htried) (by simp [hreached])
      rw [hreached] at hservice
      obtain ⟨service, hsome, rfl⟩ := Option.map_eq_some_iff.mp hservice
      rw [htried] at hgate
      have hsame := (hcoherent service (gateOf tried) hsome hgate).1
      exact .inr (by rw [← hsettings, hsame])
  · intro hsame service gate hsome hgateSome
    rw [hsome] at hservice
    rcases hsame with hnone | hsame
    · rw [hnone] at hservice
      cases hservice
    · have htried : trail.tried = some service.settings := by rw [← hsame, ← hservice]; rfl
      rw [htried] at hsettings hgate
      rw [hgate] at hgateSome
      cases hgateSome
      exact ⟨hsettings, rfl⟩

/-- A server that started up in a fresh world. -/
def startedStage : Stage Server :=
  ((Request.startUp (some localSettings)).serve.start (Surroundings.enter {} ⟨{}, {}⟩)).2

theorem startedStage_coherent : Coherent startedStage.self := by
  have hhistory : History [(Surroundings.enter {} ⟨{}, {}⟩, .startUp (some localSettings))]
      startedStage := .request (.fresh {}) {} (.startUp (some localSettings))
  exact hhistory.coherent_iff.2.mpr (.inr rfl)

def writingSettings : Settings :=
  { localSettings with databaseUrl := "postgresql://other:5432/test", allowWrites := true }

/-- The same server after a second start-up whose pool could not be opened. -/
def failedRestart : Stage Server :=
  ((Request.startUp (some writingSettings)).serve.start
    (Surroundings.enter { script := { openPool := [some (.error refusal)] } } startedStage)).2

/-- After the failed start-up the gate allows the writes of the new settings, and the service
still works on the old database. -/
theorem failedRestart_incoherent :
    (∃ past, History past failedRestart) ∧ ¬ Coherent failedRestart.self := by
  refine ⟨⟨_, .request (.request (.fresh {}) {} (.startUp (some localSettings))) _
    (.startUp (some writingSettings))⟩, ?_⟩
  intro hcoherent
  have hsame := hcoherent ⟨localSettings, some 0, true⟩ (gateOf writingSettings) rfl rfl
  cases hsame.2

end QueryGate.Server
