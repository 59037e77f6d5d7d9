import QueryGate.Proofs.Server.Serving

/-!
# The life of the process

A process that cannot read its arguments or its settings makes no call. A process that can, and
that can set its log up, installs its handlers of signals and serves. However that ends, it cleans
up once at the end, so that the pool of a start-up that returned is closed by the last call. It
exits with code 1 after an exception, and it returns otherwise, also after an interrupt.
-/

namespace QueryGate.Server

open QueryGate.CommandLine Behaviour

variable {settings : Settings} {arguments : Arguments} {stage : Stage Server}

/-- The call serves the tools. -/
def servesTools : Call → Bool
  | .serveTools _ => true
  | _ => false

def closesPool : Call → Bool
  | .closePool _ => true
  | _ => false

/-- No tools are served and no pool is closed. -/
def Early (events : List Event) : Prop :=
  ∀ event ∈ events, servesTools event.call = false ∧ closesPool event.call = false

theorem Early.nil : Early [] := fun _ hmem => by cases hmem

theorem Early.append {events more : List Event} (h : Early events) (hmore : Early more) :
    Early (events ++ more) := List.forall_mem_append.mpr ⟨h, hmore⟩

theorem Early.unserved {events : List Event} (h : Early events) :
    ∀ event ∈ events, servesTools event.call = false := fun event hmem => (h event hmem).1

theorem Early.unclosed {events : List Event} (h : Early events) :
    ∀ event ∈ events, closesPool event.call = false := fun event hmem => (h event hmem).2

theorem early_of_reaching {events : List Event} (h : Reaching events) : Early events := by
  intro event hmem
  have hcall := h event hmem
  rcases event with ⟨call, ending⟩
  cases call <;> first | exact ⟨rfl, rfl⟩ | cases hcall

theorem early_of_healthCalls {events : List Event}
    (h : events.map Event.call = healthCalls settings arguments) : Early events := by
  have hcalls : ∀ call ∈ healthCalls settings arguments,
      servesTools call = false ∧ closesPool call = false := by
    unfold healthCalls
    cases arguments.activeHealthPort with
    | none => exact fun _ hmem => by cases hmem
    | some port => simp [servesTools, closesPool]
  exact fun event hmem => hcalls event.call (h ▸ List.mem_map_of_mem hmem)

/-- The record that a clean-up sends first. -/
def cleanUpRecord : Log.Record :=
  ⟨.info, Log.Channel.server, "Cleaning up resources...", none, .none⟩

theorem cleanUp_sent (stage : Stage Server) :
    (cleanUp.start stage).2.sent beginsCleanUp = stage.sent beginsCleanUp ++ [cleanUpRecord] := by
  have hclose : (Service.close).KeepsStage (Stage.sent beginsCleanUp) := by
    refine .bind .self fun service => ?_
    cases service.pool with
    | none => exact .pure
    | some pool =>
      have hchannel : Log.Channel.database ≠ Log.Channel.server := by decide
      exact .bind .perform_sent fun _ => .bind .update_sent fun _ =>
        .send_sent (beginsCleanUp_of_channel hchannel rfl)
  have hbegins : beginsCleanUp cleanUpRecord = true := by simp [beginsCleanUp, cleanUpRecord]
  refine Act.KeepsStage.sent_of_first hbegins (.bind .self fun server => ?_) stage
  cases server.service with
  | none => exact .send_sent (beginsCleanUp_of_message rfl (by decide))
  | some service =>
    refine .bind (.recover (.onPart_sent hclose) fun fault => .ite (.send_sent ?_) .throw)
      fun _ => .bind .update_sent fun _ => .send_sent (beginsCleanUp_of_message rfl (by decide))
    exact beginsCleanUp_of_front rfl (by decide)

/-- A clean-up fails only if the closing of a pool is interrupted. -/
theorem cleanUp_confined : cleanUp.Confined Script.Exitless fun _ => False := by
  have hclose : Service.close.Confined Script.Exitless fun fault => fault.isException = true := by
    refine .bind .self fun service => ?_
    cases service.pool with
    | none => exact .pure
    | some pool => exact .bind (.perform Script.Exitless.drawsClose) fun _ => .bind .update fun _ =>
        .send
  refine .bind .send fun _ => .bind .self fun server => ?_
  cases server.service with
  | none => exact .send
  | some service =>
    refine .bind (.recover (.onPart hclose) fun fault hfault => ?_) fun _ => .bind .update fun _ =>
      .send
    rw [if_pos hfault]
    exact .send

theorem cleanUp_returns (h : stage.world.script.Exitless) : (cleanUp.start stage).1 = .ok () := by
  have hconfined := (cleanUp_confined stage h).1
  cases hresult : (cleanUp.start stage).1 with
  | ok _ => rfl
  | error fault => exact (hconfined fault hresult).elim

theorem cleanUp_cleans (h : stage.world.script.Exitless) : ∃ events,
    (cleanUp.start stage).2.world.journal = stage.world.journal ++ events ∧
      CleansUp stage.self events (.ok ()) (cleanUp.start stage).2.self := by
  obtain ⟨events, hjournal, hcleans⟩ := cleanUp_shows stage
  rw [cleanUp_returns h] at hcleans
  exact ⟨events, hjournal, hcleans⟩

/-- A clean-up that returns leaves no service, and it closes the pool of the one that it found. -/
theorem CleansUp.closes {s s' : Server} {events : List Event} (h : CleansUp s events (.ok ()) s') :
    s'.service = none ∧ (s.service = none → events = []) ∧
      ∀ service pool, s.service = some service → service.pool = some pool →
        ∃ ending, events = [⟨.closePool pool, ending⟩] := by
  cases h with
  | idle hservice =>
    exact ⟨hservice, fun _ => rfl, fun service _ hsome => by simp [hservice] at hsome⟩
  | released hservice closes _ =>
    refine ⟨rfl, fun hnone => by simp [hservice] at hnone, fun service pool hsome hpool => ?_⟩
    obtain rfl : _ = service := Option.some.inj (hservice.symm.trans hsome)
    cases closes with
    | idle hnone => simp [hpool] at hnone
    | closed hopen =>
      obtain rfl : _ = pool := Option.some.inj (hopen.symm.trans hpool)
      exact ⟨_, rfl⟩
    | failed hopen fault =>
      obtain rfl : _ = pool := Option.some.inj (hopen.symm.trans hpool)
      exact ⟨_, rfl⟩

/-- The handler of what comes out of serving. -/
def farewell : Fault → Action Unit
  | .interrupt _ => log .info "Server shutdown requested via keyboard interrupt"
  | fault =>
      if fault.isException then do
        log .error ("Failed to start server: " ++ fault.message)
        throw (.exit 1)
      else throw fault

def attempt (settings : Settings) (arguments : Arguments) : Action Unit :=
  (serve settings arguments).recover farewell

/-- The stage of a process that has installed its handlers of signals. -/
def handled (world : World) : Stage Server :=
  ⟨{}, { world with journal := world.journal ++
    [⟨.onSignal interruptSignal, .done⟩, ⟨.onSignal terminationSignal, .done⟩] }⟩

theorem start_live (settings : Settings) (arguments : Arguments) (world : World) :
    (live settings arguments).start ⟨{}, world⟩ =
      ((attempt settings arguments).ensuring cleanUp).start (handled world) := by
  have hworld : { world with journal := world.journal ++
      [⟨.onSignal interruptSignal, .done⟩] ++ [⟨.onSignal terminationSignal, .done⟩] } =
        (handled world).world := by
    rw [List.append_assoc]
    rfl
  change ((attempt settings arguments).ensuring cleanUp).start ⟨{}, _⟩ = _
  exact congrArg _ (congrArg _ hworld)

theorem farewell_keeps (fault : Fault) :
    (farewell fault).KeepsStage fun stage => (stage.self, stage.world.journal) := by
  cases fault with
  | interrupt message => exact fun _ => rfl
  | exit code => exact .throw
  | _ => exact fun _ => rfl

theorem farewell_sent (fault : Fault) : (farewell fault).KeepsStage (Stage.sent beginsCleanUp) := by
  have hreport : (if fault.isException then do
      log .error ("Failed to start server: " ++ fault.message)
      throw (.exit 1)
    else throw fault : Action Unit).KeepsStage (Stage.sent beginsCleanUp) :=
    .ite (.bind (.send_sent (beginsCleanUp_of_front rfl (by decide))) fun _ => .throw) .throw
  cases fault with
  | interrupt message => exact .send_sent (beginsCleanUp_of_message rfl (by decide))
  | _ => exact hreport

theorem attempt_sent (settings : Settings) (arguments : Arguments) :
    (attempt settings arguments).KeepsStage (Stage.sent beginsCleanUp) :=
  .recover (.bind (startUp_sent _) fun _ => offer_sent settings arguments) farewell_sent

theorem attempt_exitless (settings : Settings) (arguments : Arguments)
    (h : stage.world.script.Exitless) :
    ((attempt settings arguments).start stage).2.world.script.Exitless := by
  have hfarewell (fault : Fault) : (farewell fault).Confined Script.Exitless fun _ => True := by
    cases fault with
    | interrupt message => exact .send
    | exit code => exact .throw trivial
    | _ => exact .bind .send fun _ => .throw trivial
  have hattempt : (attempt settings arguments).Confined Script.Exitless fun _ => True :=
    .recover (serve_confined settings arguments) fun fault _ => hfarewell fault
  exact (hattempt stage h).2

/-- How an attempt to serve ends, from what came out of serving. -/
def parted : Except Fault Unit → Except Fault Unit
  | .ok _ => .ok ()
  | .error (.interrupt _) => .ok ()
  | .error fault => if fault.isException then .error (.exit 1) else .error fault

theorem attempt_result (settings : Settings) (arguments : Arguments) (stage : Stage Server) :
    ((attempt settings arguments).start stage).1 =
      parted ((serve settings arguments).start stage).1 := by
  rw [attempt, Act.start_recover]
  rcases (serve settings arguments).start stage with ⟨result, served⟩
  cases result with
  | ok _ => rfl
  | error fault => cases fault <;> rfl

theorem parted_eq_exit_iff {result : Except Fault Unit}
    (h : ∀ fault, result = .error fault → fault.isExit = false) :
    parted result = .error (.exit 1) ↔
      ∃ fault, result = .error fault ∧ fault.isException = true := by
  cases result with
  | ok _ => simp [parted]
  | error fault => cases fault with
    | interrupt message => simp [parted, Fault.isException]
    | exit code => cases h _ rfl
    | _ => simp [parted, Fault.isException]

theorem parted_cases {result : Except Fault Unit}
    (h : ∀ fault, result = .error fault → fault.isExit = false) :
    parted result = .error (.exit 1) ∨ parted result = .ok () := by
  cases result with
  | ok _ => exact .inr rfl
  | error fault => cases fault with
    | interrupt message => exact .inr rfl
    | exit code => cases h _ rfl
    | _ => exact .inl rfl

/-- What serving leaves of the server and adds to the journal, from how the start-up ended. -/
inductive Serves (s : Server) (journal : List Event) :
    Except Fault (Service × Gate) → Server → List Event → Prop where
  | unreached {fault : Fault} {events : List Event} {s' : Server} (hearly : Early events)
      (hservice : s'.service = s.service) : Serves s journal (.error fault) s' (journal ++ events)
  | reached (parameters : Parameters) {pool : Nat} {service : Service} {gate : Gate}
      {health tools : List Event} {s' : Server} (hpool : service.pool = some pool)
      (hearly : Early health)
      (htools : tools = [] ∨ ∃ parameters ending, tools = [⟨.serveTools parameters, ending⟩])
      (hservice : s'.service = some service) :
      Serves s journal (.ok (service, gate)) s'
        (journal ++ (⟨.openPool parameters, .opened pool⟩ :: Service.probing pool) ++
          (health ++ tools))

theorem serve_serves (settings : Settings) (arguments : Arguments) (stage : Stage Server) :
    Serves stage.self stage.world.journal ((startUp (some settings)).start stage).1
      ((serve settings arguments).start stage).2.self
      ((serve settings arguments).start stage).2.world.journal := by
  obtain ⟨events, hjournal, hstarts⟩ := startUp_shows (some settings) stage
  rw [serve_eq, Act.start_bind]
  rcases hstart : (startUp (some settings)).start stage with ⟨result, started⟩
  rw [hstart] at hjournal hstarts
  dsimp only at hjournal hstarts
  cases result with
  | error fault =>
    dsimp only
    rw [hjournal]
    cases hstarts with
    | unreached hcalls _ hservice => exact .unreached (early_of_reaching hcalls) hservice
  | ok parts =>
    obtain ⟨more, hmore, hoffers⟩ := offer_shows settings arguments started
    dsimp only
    rw [hmore, hjournal]
    generalize ((offer settings arguments).start started).1 = ended at hoffers
    generalize ((offer settings arguments).start started).2.self = left at hoffers ⊢
    cases hstarts with
    | reached parameters gate hpool hservice =>
      cases hoffers with
      | withheld health =>
        rw [← List.append_nil more]
        cases health with
        | unset fault => exact .reached parameters hpool .nil (.inl rfl) hservice
        | set hcalls r =>
          exact .reached parameters hpool (early_of_healthCalls hcalls) (.inl rfl) hservice
      | offered hcalls ending =>
        exact .reached parameters hpool (early_of_healthCalls hcalls) (.inr ⟨_, ending, rfl⟩)
          hservice

theorem attempt_serves (settings : Settings) (arguments : Arguments) (stage : Stage Server) :
    Serves stage.self stage.world.journal ((startUp (some settings)).start stage).1
      ((attempt settings arguments).start stage).2.self
      ((attempt settings arguments).start stage).2.world.journal := by
  have hkept : (fun stage : Stage Server => (stage.self, stage.world.journal))
      ((attempt settings arguments).start stage).2 =
        (fun stage : Stage Server => (stage.self, stage.world.journal))
          ((serve settings arguments).start stage).2 :=
    Act.KeepsStage.start_recover_view farewell_keeps stage
  simp only [Prod.mk.injEq] at hkept
  rw [hkept.1, hkept.2]
  exact serve_serves settings arguments stage

/-- The pool of a journal was opened, and right after that a probe on it succeeded. -/
def Reached (events : List Event) : Prop :=
  ∃ front parameters pool back,
    events = front ++ (⟨.openPool parameters, .opened pool⟩ :: Service.probing pool) ++ back

/-- The tools are served at most once, and only after a pool was opened and probed. -/
def ServesOnce (journal : List Event) : Prop :=
  ∃ earlier tools later, journal = earlier ++ tools ++ later ∧
    (∀ event ∈ earlier ++ later, servesTools event.call = false) ∧
    (tools = [] ∨ ∃ parameters ending, tools = [⟨.serveTools parameters, ending⟩] ∧
      Reached earlier)

/-- What a run needs to get as far as serving: its arguments and its settings are read, and its
log is set up. -/
structure Prepared (program : String) (world : World) (line : List String) (arguments : Arguments)
    (settings : Settings) : Prop where
  parsed : ∃ grammar, serverGrammarIn program world.environment = .ok grammar ∧
    grammar.parse line = .ok arguments
  settled : Settings.ofEnvironment world.environment = .ok settings
  logged :
    (Log.Logbook.initial.setUp world.disk (logSetup settings world.environment)).1 = .ok ()

/-- The life of a process that gets as far as serving in a world. -/
structure Lives (settings : Settings) (arguments : Arguments) (world : World) (final : Run) :
    Prop where
  served : ServesOnce final.stage.world.journal
  /-- The last action is a clean-up, and it is the only one. -/
  cleaned : ∃ before : Stage Server, before.sent beginsCleanUp = [] ∧
    final.stage = (cleanUp.start before).2 ∧ final.stage.sent beginsCleanUp = [cleanUpRecord]
  released : final.stage.self.service = none
  /-- After a start-up that returned, the last call is the only one that closes a pool, and it is
  the pool of the service. -/
  closed : ∀ service gate,
    ((startUp (some settings)).start (handled world)).1 = .ok (service, gate) →
      ∃ pool earlier ending, service.pool = some pool ∧
        final.stage.world.journal = earlier ++ [⟨.closePool pool, ending⟩] ∧
        ∀ event ∈ earlier, closesPool event.call = false
  failed : final.result = .error (.exit 1) ↔
    ∃ fault, ((serve settings arguments).start (handled world)).1 = .error fault ∧
      fault.isException = true
  returned : final.result = .error (.exit 1) ∨ final.result = .ok ()

section

variable {program : String} {origin : Log.Origin} {world : World} {line : List String}

theorem run_unprepared
    (h : ∀ arguments settings, ¬ Prepared program world line arguments settings) :
    (run program origin world line).stage = ⟨{}, world⟩ := by
  rw [run]
  cases hgrammar : serverGrammarIn program world.environment with
  | error fault => rfl
  | ok grammar =>
    cases hparsed : grammar.parse line with
    | error stop => simp [hparsed]
    | ok arguments =>
      cases hsettings : Settings.ofEnvironment world.environment with
      | error failure => simp [hparsed]
      | ok settings =>
        rcases hlog : Log.Logbook.initial.setUp world.disk (logSetup settings world.environment)
          with ⟨result, book⟩
        cases result with
        | error fault => simp [hparsed, hlog]
        | ok _ =>
          exact absurd ⟨⟨grammar, hgrammar, hparsed⟩, hsettings, congrArg Prod.fst hlog⟩
            (h arguments settings)

theorem run_prepared (origin : Log.Origin) (h : Prepared program world line arguments settings) :
    (run program origin world line).result = ((live settings arguments).start ⟨{}, world⟩).1 ∧
      (run program origin world line).stage = ((live settings arguments).start ⟨{}, world⟩).2 := by
  obtain ⟨⟨grammar, hgrammar, hparsed⟩, hsettings, hlogged⟩ := h
  rcases hlog : Log.Logbook.initial.setUp world.disk (logSetup settings world.environment)
    with ⟨result, book⟩
  obtain rfl : result = .ok () := by rw [← hlogged, hlog]
  rw [run, hgrammar]
  simp [hparsed, hsettings, hlog]

theorem early_handled (hjournal : world.journal = []) : Early (handled world).world.journal := by
  rw [handled, hjournal, List.nil_append]
  simp [Early, servesTools, closesPool]

/-- What serving adds to an early journal shows no closed pool. -/
theorem Serves.unclosed {s s' : Server} {journal final : List Event}
    {started : Except Fault (Service × Gate)} (h : Serves s journal started s' final)
    (hjournal : Early journal) : ∀ event ∈ final, closesPool event.call = false := by
  cases h with
  | unreached hearly hservice => exact (hjournal.append hearly).unclosed
  | @reached parameters pool _ _ health tools _ hpool hearly htools hservice =>
    have htools' : ∀ event ∈ tools, closesPool event.call = false := by
      rcases htools with rfl | ⟨offered, ending, rfl⟩
      · exact fun _ hmem => by cases hmem
      · exact List.forall_mem_singleton.mpr rfl
    have hopened := hjournal.append (early_of_reaching (Service.reaching_opening parameters pool))
    exact List.forall_mem_append.mpr
      ⟨hopened.unclosed, List.forall_mem_append.mpr ⟨hearly.unclosed, htools'⟩⟩

/-- What serving adds to an early journal serves the tools once, also if a pool is closed then. -/
theorem Serves.servesOnce {s s' : Server} {journal final closing : List Event}
    {started : Except Fault (Service × Gate)} (h : Serves s journal started s' final)
    (hjournal : Early journal) (hclosing : ∀ event ∈ closing, servesTools event.call = false) :
    ServesOnce (final ++ closing) := by
  cases h with
  | @unreached fault events _ hearly hservice =>
    refine ⟨journal ++ events, [], closing, by simp, ?_, .inl rfl⟩
    exact List.forall_mem_append.mpr ⟨(hjournal.append hearly).unserved, hclosing⟩
  | @reached parameters pool _ _ health tools _ hpool hearly htools hservice =>
    have hopened := hjournal.append (early_of_reaching (Service.reaching_opening parameters pool))
    have hfront := hopened.append hearly
    refine ⟨_, tools, closing, by rw [← List.append_assoc _ health], ?_, ?_⟩
    · exact List.forall_mem_append.mpr ⟨hfront.unserved, hclosing⟩
    · rcases htools with hnone | ⟨offered, ending, htools⟩
      · exact .inl hnone
      · exact .inr ⟨offered, ending, htools, journal, parameters, pool, health, rfl⟩

/-- The calls of a whole life, up to the one that closes the pool. -/
theorem Serves.closes {s s' final : Server} {journal left events : List Event} {service : Service}
    {gate : Gate} (h : Serves s journal (.ok (service, gate)) s' left)
    (hcleans : CleansUp s' events (.ok ()) final) :
    ∃ pool ending, service.pool = some pool ∧ events = [⟨.closePool pool, ending⟩] := by
  cases h with
  | @reached _ pool _ _ _ _ _ hpool _ _ hservice =>
    obtain ⟨ending, hevents⟩ := hcleans.closes.2.2 service pool hservice hpool
    exact ⟨pool, ending, hpool, hevents⟩

theorem CleansUp.unserved {s s' : Server} {events : List Event} {r : Except Fault Unit}
    (h : CleansUp s events r s') : ∀ event ∈ events, servesTools event.call = false := by
  have hcloses {service service' : Service} {r : Except Fault Unit}
      (closes : Service.Closes service events r service') :
      ∀ event ∈ events, servesTools event.call = false := by
    cases closes with
    | idle hpool => exact fun _ hmem => by cases hmem
    | closed hpool => exact List.forall_mem_singleton.mpr rfl
    | failed hpool fault => exact List.forall_mem_singleton.mpr rfl
  cases h with
  | idle hservice => exact fun _ hmem => by cases hmem
  | released hservice closes hr => exact hcloses closes
  | interrupted hservice closes hfault => exact hcloses closes

/-- Where nothing exits, a life ends as serving has ended, behind a clean-up. -/
theorem start_live_of_exitless (settings : Settings) (arguments : Arguments)
    (hscript : world.script.Exitless) :
    (live settings arguments).start ⟨{}, world⟩ =
      (parted ((serve settings arguments).start (handled world)).1,
        (cleanUp.start ((attempt settings arguments).start (handled world)).2).2) := by
  have hexitless : ((attempt settings arguments).start (handled world)).2.world.script.Exitless :=
    attempt_exitless settings arguments hscript
  have hreturns := cleanUp_returns hexitless
  rw [start_live, Act.start_ensuring, ← attempt_result]
  rcases hattempt : (attempt settings arguments).start (handled world) with ⟨result, before⟩
  rw [hattempt] at hreturns
  dsimp only at hreturns ⊢
  rcases hclean : cleanUp.start before with ⟨ended, final⟩
  rw [hclean] at hreturns
  dsimp only at hreturns
  rw [hreturns]

theorem lives (h : Prepared program world line arguments settings) (hjournal : world.journal = [])
    (hrecords : world.records = []) (hscript : world.script.Exitless) :
    Lives settings arguments world (run program origin world line) := by
  obtain ⟨hresult, hstage⟩ := run_prepared origin h
  rw [start_live_of_exitless settings arguments hscript] at hresult hstage
  have hnoExit := (serve_confined settings arguments (handled world) hscript).1
  have hserves := attempt_serves settings arguments (handled world)
  have hsent := attempt_sent settings arguments (handled world)
  have hexitless : ((attempt settings arguments).start (handled world)).2.world.script.Exitless :=
    attempt_exitless settings arguments hscript
  dsimp only at hresult hstage
  generalize ((attempt settings arguments).start (handled world)).2 = before
    at hstage hserves hsent hexitless
  obtain ⟨events, hevents, hcleans⟩ := cleanUp_cleans hexitless
  -- Nothing before the clean-up announces one, so that the record found at the end is its own.
  have hnone : before.sent beginsCleanUp = [] := by
    rw [hsent, Stage.sent, handled, hrecords]
    rfl
  have hearly := early_handled hjournal
  refine ⟨?_, ⟨before, hnone, hstage, ?_⟩, ?_, ?_, ?_, ?_⟩
  · rw [hstage, hevents]
    exact hserves.servesOnce hearly hcleans.unserved
  · rw [hstage, cleanUp_sent, hnone]
    rfl
  · rw [hstage]
    exact hcleans.closes.1
  · intro service gate hstarted
    rw [hstarted] at hserves
    obtain ⟨pool, ending, hpool, rfl⟩ := hserves.closes hcleans
    refine ⟨pool, before.world.journal, ending, hpool, ?_, hserves.unclosed hearly⟩
    rw [hstage, hevents]
  · rw [hresult]
    exact parted_eq_exit_iff hnoExit
  · rw [hresult]
    exact parted_cases hnoExit

end

/-- The life cycle of the process, in every world and under every script of failures. If its
arguments, its settings or its log cannot be had, a process makes no call. Otherwise it serves the
tools at most once, and only behind a probed pool; it cleans up once and at the end; it keeps no
service; the pool of a start-up that returned is closed by the last call; and it exits with code 1
exactly if an exception came out of serving, and returns if none did. -/
theorem run_lives (program : String) (origin : Log.Origin) {world : World} (line : List String)
    (hjournal : world.journal = []) (hrecords : world.records = [])
    (hscript : world.script.Exitless) :
    ((∀ arguments settings, ¬ Prepared program world line arguments settings) →
      (run program origin world line).stage.world.journal = []) ∧
    ∀ arguments settings, Prepared program world line arguments settings →
      Lives settings arguments world (run program origin world line) := by
  constructor
  · intro h
    rw [run_unprepared h]
    exact hjournal
  · intro arguments settings h
    exact lives h hjournal hrecords hscript

/-- A world with a local database, in which the tools cannot be served. -/
def unboundWorld : World where
  environment := [("DATABASE_URL", "postgresql://localhost:5432/test")]
  script := { serveTools := [some (.error (.plain .runtime "address in use"))] }

/-- A process in that world reaches the database, closes its pool again, and exits with code 1. -/
theorem run_lives_unbound :
    let arguments : Arguments := ⟨.value .http, .value "0.0.0.0", .value 3000, none⟩
    let final := run "server" ⟨"server", "main", 1, 0⟩ unboundWorld
      ["--transport", "http"]
    Lives localSettings arguments unboundWorld final ∧ final.result = .error (.exit 1) ∧
      ∃ pool earlier ending,
        final.stage.world.journal = earlier ++ [⟨.closePool pool, ending⟩] := by
  intro arguments final
  have hserveTools : AllowedReplies (fun fault => fault.isExit = false)
      unboundWorld.script.serveTools := by
    intro fault hmem
    obtain rfl : fault = .plain .runtime "address in use" := by simpa [unboundWorld] using hmem
    rfl
  have hscript : unboundWorld.script.Exitless :=
    ⟨⟨.nil, .nil, .nil, .nil, .nil, .nil, .nil, .nil, .nil, .nil, .nil⟩,
      ⟨.nil, hserveTools, .nil, .nil⟩⟩
  have hsettled : Settings.ofEnvironment unboundWorld.environment = .ok localSettings := by
    rw [unboundWorld, localSettings, Text.RawText.ofString]
    rfl
  have hprepared : Prepared "server" unboundWorld ["--transport", "http"] arguments
      localSettings := ⟨⟨_, rfl, rfl⟩, hsettled, rfl⟩
  have hlives := (run_lives "server" ⟨"server", "main", 1, 0⟩
    ["--transport", "http"] rfl rfl hscript).2 arguments localSettings hprepared
  refine ⟨hlives, hlives.failed.mpr ⟨.plain .runtime "address in use", rfl, rfl⟩, ?_⟩
  obtain ⟨pool, earlier, ending, -, hjournal, -⟩ := hlives.closed _ _ rfl
  exact ⟨pool, earlier, ending, hjournal⟩

end QueryGate.Server
