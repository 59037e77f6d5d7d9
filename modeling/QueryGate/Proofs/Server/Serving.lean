import QueryGate.Proofs.Database.Reaching
import QueryGate.Proofs.Server.Requests
import QueryGate.Proofs.World.Confining
import QueryGate.Server.Run

/-!
# Serving

The process serves in four steps: it starts the server up, it sets the health service up, it says
so, and it serves the tools. A start-up that returns has opened a pool and probed it. No step
closes a pool, and none begins a clean-up. If the replies of the world make no step exit, no step
does.
-/

namespace QueryGate

open QueryGate.CommandLine QueryGate.Text Behaviour

/-- The fault ends the program with a code. -/
def Fault.isExit : Fault → Bool
  | .exit _ => true
  | _ => false

/-- The other replies are no exits either, and the closing of a pool is not interrupted. -/
structure Script.Others.Exitless (others : Script.Others) : Prop where
  closePool : AllowedReplies (fun fault => fault.isException = true) others.closePool
  serveTools : AllowedReplies (fun fault => fault.isExit = false) others.serveTools
  serveHealth : AllowedReplies (fun fault => fault.isExit = false) others.serveHealth
  now : AllowedReplies (fun fault => fault.isExit = false) others.now

/-- The replies are failures at most, exceptions or interrupts; only the closing of a pool is not
interrupted. -/
def Script.Exitless (script : Script) : Prop :=
  script.Allows (fun fault => fault.isExit = false) ∧ script.others.Exitless

theorem Fault.isExit_of_isException (fault : Fault) (h : fault.isException = true) :
    fault.isExit = false := by
  cases fault <;> first | rfl | cases h

namespace Script.Exitless

theorem confining : Act.Confining Script.Exitless fun fault => fault.isExit = false :=
  Script.Allows.confining _ (.of_exceptions Fault.isExit_of_isException)

theorem drawsPool : Draws Script.Exitless (fun fault => fault.isExit = false) (·.openPool)
    fun rest script => { script with openPool := rest } := Script.Allows.drawsPool _

theorem drawsClose : Draws Script.Exitless (fun fault => fault.isException = true) (·.closePool)
    fun rest script => { script with closePool := rest } :=
  ⟨(·.2.closePool), fun h => ⟨{ h.1 with }, { h.2 with closePool := h.2.closePool.tail }⟩⟩

theorem drawsTools : Draws Script.Exitless (fun fault => fault.isExit = false) (·.serveTools)
    fun rest script => { script with serveTools := rest } :=
  ⟨(·.2.serveTools), fun h => ⟨{ h.1 with }, { h.2 with serveTools := h.2.serveTools.tail }⟩⟩

theorem drawsHealth : Draws Script.Exitless (fun fault => fault.isExit = false) (·.serveHealth)
    fun rest script => { script with serveHealth := rest } :=
  ⟨(·.2.serveHealth), fun h => ⟨{ h.1 with }, { h.2 with serveHealth := h.2.serveHealth.tail }⟩⟩

theorem drawsNow : Draws Script.Exitless (fun fault => fault.isExit = false) (·.now)
    fun rest script => { script with now := rest } :=
  ⟨(·.2.now), fun h => ⟨{ h.1 with }, { h.2 with now := h.2.now.tail }⟩⟩

end Script.Exitless

namespace Server

/-- The record with which every clean-up begins. -/
def beginsCleanUp (record : Log.Record) : Bool :=
  record.channel == Log.Channel.server && record.message == "Cleaning up resources..."

theorem beginsCleanUp_of_channel {record : Log.Record} {channel : String}
    (hother : channel ≠ Log.Channel.server) (h : record.channel = channel) :
    beginsCleanUp record = false := by
  have hne : record.channel ≠ Log.Channel.server := h ▸ hother
  simp [beginsCleanUp, hne]

/-- A message that begins with another letter announces no clean-up. -/
theorem beginsCleanUp_of_front {record : Log.Record} {front : String} {back : RawText}
    (hmessage : record.message = .ofString front ++ back)
    (hfront : front.toList.head?.any (· != 'C') = true) : beginsCleanUp record = false := by
  have hne : record.message ≠ .ofString "Cleaning up resources..." := by
    intro hsame
    have hunits : (RawText.ofString front).units ++ back.units =
        (RawText.ofString "Cleaning up resources...").units :=
      congrArg RawText.units (hmessage.symm.trans hsame)
    rw [RawText.ofString, RawText.ofString] at hunits
    cases hletters : front.toList with
    | nil => simp [hletters] at hfront
    | cons c rest =>
      have hc : c ≠ 'C' := by simpa [hletters] using hfront
      simp [hletters, hc] at hunits
  simp [beginsCleanUp, hne]

/-- Another message that is a text announces no clean-up. -/
theorem beginsCleanUp_of_message {record : Log.Record} {message : String}
    (hmessage : record.message = .ofString message)
    (hother : message ≠ "Cleaning up resources...") :
    beginsCleanUp record = false := by
  have hne : record.message ≠ .ofString "Cleaning up resources..." := by
    rwa [hmessage, Ne, RawText.ofString_inj]
  simp [beginsCleanUp, hne]

variable {settings : Settings} {arguments : Arguments}

/-- What a start-up calls and what it leaves. -/
inductive Starts (s : Server) : List Event → Except Fault (Service × Gate) → Server → Prop where
  | unreached {events : List Event} (hcalls : Reaching events) (fault : Fault) {s' : Server}
      (hservice : s'.service = s.service) : Starts s events (.error fault) s'
  | reached (parameters : Parameters) {pool : Nat} {service : Service} (gate : Gate)
      (hpool : service.pool = some pool) {s' : Server} (hservice : s'.service = some service) :
      Starts s (⟨.openPool parameters, .opened pool⟩ :: Service.probing pool)
        (.ok (service, gate)) s'

private theorem chooseSettings_shows (given : Option Settings) :
    (chooseSettings given).Shows quiet := by
  intro stage
  have hstart := start_chooseSettings given stage
  exact ⟨[], by rw [hstart, List.append_nil], rfl, by rw [hstart]⟩

/-- What is said behind a start-up. -/
private theorem announced_shows (settings : Settings) (service : Service) (gate : Gate) : (do
    if settings.allowWrites then
      log .warning "Write operations are ENABLED (DANGEROUSLY_ALLOW_WRITE_OPS)"
    log .info "Database connection established"
    return (service, gate) : Action (Service × Gate)).Shows (ends (.ok (service, gate))) := by
  have hlog : (do
      log .info "Database connection established"
      return (service, gate) : Action (Service × Gate)).Shows (ends (.ok (service, gate))) :=
    .bind_ends .send .pure
  cases settings.allowWrites with
  | true => exact .bind_ends .send hlog
  | false => exact hlog

theorem startUp_shows (given : Option Settings) : (startUp given).Shows Starts := by
  refine ((chooseSettings_shows given).bind fun settings => Act.Shows.update.bind fun _ =>
    (Act.Shows.onOther Service.reach_shows).bind fun opened => Act.Shows.update.bind fun _ =>
      announced_shows settings opened.2 ⟨settings.allowWrites, Log.Channel.serverGate⟩).mono ?_
  intro s events r s' hb
  cases hb with
  | stopped chosen =>
    obtain ⟨rfl, rfl⟩ := chosen
    exact .unreached .nil _ rfl
  | continued chosen next =>
    obtain ⟨rfl, rfl⟩ := chosen
    cases next with
    | stopped update => cases update.2.1
    | continued update next =>
      obtain ⟨rfl, -, rfl⟩ := update
      cases next with
      | stopped opens =>
        obtain ⟨result, service, hreaches, hresult, rfl⟩ := opens
        cases hreaches with
        | unreached hcalls fault => exact .unreached hcalls _ rfl
        | reached parameters hpool => cases hresult
      | continued opens next =>
        obtain ⟨result, service, hreaches, hresult, rfl⟩ := opens
        cases hreaches with
        | unreached hcalls fault => cases hresult
        | reached parameters hpool =>
          cases hresult
          cases next with
          | stopped update => cases update.2.1
          | continued update next =>
            obtain ⟨rfl, -, rfl⟩ := update
            obtain ⟨rfl, rfl, rfl⟩ := next
            simpa using Starts.reached parameters _ hpool rfl

theorem startUp_sent (given : Option Settings) :
    (startUp given).KeepsStage (Stage.sent beginsCleanUp) := by
  have hdatabase (record : Log.Record) (h : record.channel = Log.Channel.database) :
      beginsCleanUp record = false := beginsCleanUp_of_channel (by decide) h
  have hchosen : (chooseSettings given).KeepsStage (Stage.sent beginsCleanUp) := by
    intro stage
    rw [start_chooseSettings]
  have hopened : (do
      Service.connect
      Service.probe : Service.Action Unit).KeepsStage (Stage.sent beginsCleanUp) :=
    Service.reach_sent hdatabase
  have hend (parts : Service × Gate) : (do
      log .info "Database connection established"
      return parts : Action (Service × Gate)).KeepsStage (Stage.sent beginsCleanUp) :=
    .bind (.send_sent (beginsCleanUp_of_message rfl (by decide))) fun _ => .pure
  refine .bind hchosen fun _ => .bind .update_sent fun _ => .bind (.onOther_sent hopened)
    fun _ => .bind .update_sent fun _ => iteInduction (fun _ => ?_) fun _ => hend _
  exact .bind (.send_sent (beginsCleanUp_of_message rfl (by decide))) fun _ => hend _

/-- The calls that set the health service up, if a port is given for it. -/
def healthCalls (settings : Settings) (arguments : Arguments) : List Call :=
  match arguments.activeHealthPort with
  | none => []
  | some port =>
      [.startThread true (some settings.allowWrites),
       .serveHealth [("host", arguments.hostValue), ("port", .int port),
         ("log_level", .text "warning")]]

private theorem serveHealth_shows {σ : Type} (health : Health) :
    (serveHealth health : Act σ Unit).Shows fun s events _ s' =>
      events.map Event.call = [.serveHealth [("host", health.host), ("port", health.port),
        ("log_level", .text "warning")]] ∧ s' = s := by
  have hhandle (fault : Fault) : (if fault.isException then
      Act.note .error Log.Channel.server ("Health API error: " ++ fault.message)
        else throw fault : Act σ Unit).Shows quiet := by
    cases fault.isException with
    | true => exact Act.Shows.send.mono fun _ _ _ _ h => ⟨h.1, h.2.2⟩
    | false => exact Act.Shows.throw.mono fun _ _ _ _ h => ⟨h.1, h.2.2⟩
  have hlisten : (health.listen : Act σ Unit).Shows (Calls (.serveHealth [("host", health.host),
      ("port", health.port), ("log_level", .text "warning")]) Act.finished) :=
    .bind_ends .send .perform
  refine (hlisten.recover hhandle).mono ?_
  intro s events r s' hb
  cases hb with
  | passed listened => cases listened; exact ⟨rfl, rfl⟩
  | handled listened next =>
    obtain ⟨rfl, rfl⟩ := next
    cases listened
    exact ⟨rfl, rfl⟩

private theorem readNow_shows {σ : Type} :
    (Act.readNow : Act σ Calendar.DateTime).Shows quiet := by
  intro stage
  rw [Act.readNow, Act.start_bind, Act.start_world]
  dsimp only
  rw [Act.reading, Act.start_bind, Act.start_world]
  simp only [Act.start_bind, Act.start_updateWorld]
  cases stage.world.script.now.head?.join with
  | none => exact ⟨[], (List.append_nil _).symm, rfl, rfl⟩
  | some reply =>
    cases reply <;> exact ⟨[], (List.append_nil _).symm, rfl, rfl⟩

/-- The health service is set up with all of its calls, unless it fails before the first. -/
inductive SetsHealth (settings : Settings) (arguments : Arguments) (s : Server) :
    List Event → Except Fault Unit → Server → Prop where
  | unset (fault : Fault) : SetsHealth settings arguments s [] (.error fault) s
  | set {events : List Event} (hcalls : events.map Event.call = healthCalls settings arguments)
      (r : Except Fault Unit) : SetsHealth settings arguments s events r s

theorem startHealth_shows (settings : Settings) (arguments : Arguments) :
    (startHealth settings arguments).Shows (SetsHealth settings arguments) := by
  unfold startHealth
  cases hport : arguments.activeHealthPort with
  | none =>
    refine Act.Shows.pure.mono ?_
    rintro s events r s' ⟨rfl, rfl, rfl⟩
    exact .set (by rw [healthCalls, hport]; rfl) _
  | some port =>
    refine (readNow_shows.bind fun time => Act.Shows.enter.bind fun _ =>
      serveHealth_shows _).mono ?_
    intro s events r s' hb
    cases hb with
    | stopped read =>
      obtain ⟨rfl, rfl⟩ := read
      exact .unset _
    | continued read next =>
      obtain ⟨rfl, rfl⟩ := read
      cases next with
      | stopped entered => cases entered.2.1
      | continued entered next =>
        obtain ⟨rfl, -, rfl⟩ := entered
        obtain ⟨hcalls, rfl⟩ := next
        refine .set ?_ _
        rw [healthCalls, hport, List.nil_append, List.map_append, hcalls]
        rfl

theorem startHealth_sent (settings : Settings) (arguments : Arguments) :
    (startHealth settings arguments).KeepsStage (Stage.sent beginsCleanUp) := by
  have hserve (health : Health) :
      (serveHealth health : Action Unit).KeepsStage (Stage.sent beginsCleanUp) := by
    have hchannel : Log.Channel.health ≠ Log.Channel.server := by decide
    refine .recover (.bind (.send_sent (beginsCleanUp_of_channel hchannel rfl)) fun _ =>
      .perform_sent) fun fault => .ite (.send_sent ?_) .throw
    exact beginsCleanUp_of_front rfl (by decide)
  unfold startHealth
  cases arguments.activeHealthPort with
  | none => exact .pure
  | some port =>
    have hnow : (Act.readNow : Action Calendar.DateTime).KeepsStage (Stage.sent beginsCleanUp) :=
      .bind .world fun _ => .reading_sent
    exact .bind hnow fun _ => .bind .enter_sent fun _ => hserve _

/-- What is called behind a start-up: the tools are served last, if at all. -/
inductive Offers (settings : Settings) (arguments : Arguments) (s : Server) :
    List Event → Except Fault Unit → Server → Prop where
  | withheld {events : List Event} {fault : Fault}
      (health : SetsHealth settings arguments s events (.error fault) s) :
      Offers settings arguments s events (.error fault) s
  | offered {events : List Event}
      (hcalls : events.map Event.call = healthCalls settings arguments) (ending : Ending)
      (r : Except Fault Unit) :
      Offers settings arguments s (events ++ [⟨.serveTools arguments.transport.parameters, ending⟩])
        r s

/-- What is left to do once the server is started up. -/
def offer (settings : Settings) (arguments : Arguments) : Action Unit := do
  startHealth settings arguments
  if arguments.mode = .value .stdio then
    log .info "Starting PostgreSQL MCP Server in stdio mode..."
  arguments.transport.serve

theorem serve_eq (settings : Settings) (arguments : Arguments) :
    serve settings arguments = startUp (some settings) >>= fun _ => offer settings arguments := rfl

private theorem stopped_shows (transport : Transport) (fault : Fault) : (match fault with
    | .interrupt _ => Act.note .info transport.channel transport.stopText
    | fault => throw fault : Action Unit).Shows quiet := by
  cases fault with
  | interrupt message => exact Act.Shows.send.mono fun _ _ _ _ h => ⟨h.1, h.2.2⟩
  | _ => exact Act.Shows.throw.mono fun _ _ _ _ h => ⟨h.1, h.2.2⟩

private theorem transport_shows (transport : Transport) :
    (transport.serve : Action Unit).Shows fun s events _ s' =>
      (∃ ending, events = [⟨.serveTools transport.parameters, ending⟩]) ∧ s' = s := by
  have hcall : (Act.serveTools transport.parameters : Action Unit).Shows
      (Calls (.serveTools transport.parameters) Act.finished) := .perform
  refine (Act.Shows.bind_ends .send (hcall.recover (stopped_shows transport))).mono ?_
  intro s events r s' hb
  cases hb with
  | passed served => cases served; exact ⟨⟨_, rfl⟩, rfl⟩
  | handled served next =>
    obtain ⟨rfl, rfl⟩ := next
    cases served
    exact ⟨⟨_, rfl⟩, rfl⟩

theorem offer_shows (settings : Settings) (arguments : Arguments) :
    (offer settings arguments).Shows (Offers settings arguments) := by
  have hserve : (do
      if arguments.mode = .value .stdio then
        log .info "Starting PostgreSQL MCP Server in stdio mode..."
      arguments.transport.serve : Action Unit).Shows fun s events _ s' =>
        (∃ ending, events = [⟨.serveTools arguments.transport.parameters, ending⟩]) ∧ s' = s := by
    by_cases hmode : arguments.mode = .value .stdio
    · rw [if_pos hmode]
      exact .bind_ends .send (transport_shows _)
    · rw [if_neg hmode]
      exact transport_shows _
  refine ((startHealth_shows settings arguments).bind fun _ => hserve).mono ?_
  intro s events r s' hb
  cases hb with
  | stopped health =>
    cases health with
    | unset => exact .withheld (.unset _)
    | set hcalls r => exact .withheld (.set hcalls _)
  | continued health next =>
    obtain ⟨⟨ending, rfl⟩, rfl⟩ := next
    cases health with
    | set hcalls r => exact .offered hcalls _ _

theorem offer_sent (settings : Settings) (arguments : Arguments) :
    (offer settings arguments).KeepsStage (Stage.sent beginsCleanUp) := by
  have hchannel : arguments.transport.channel ≠ Log.Channel.server := by
    cases arguments.transport with
    | stdio => decide
    | http host port path =>
      change Log.Channel.http ≠ Log.Channel.server
      decide
  have hserve :
      (arguments.transport.serve : Action Unit).KeepsStage (Stage.sent beginsCleanUp) := by
    refine .bind (.send_sent (beginsCleanUp_of_channel hchannel rfl)) fun _ =>
      .recover .perform_sent fun fault => ?_
    split
    · exact .send_sent (beginsCleanUp_of_channel hchannel rfl)
    · exact .throw
  refine .bind (startHealth_sent settings arguments) fun _ =>
    iteInduction (fun _ => ?_) fun _ => hserve
  exact .bind (.send_sent (beginsCleanUp_of_message rfl (by decide))) fun _ => hserve

theorem offer_confined (settings : Settings) (arguments : Arguments) :
    (offer settings arguments).Confined Script.Exitless fun fault => fault.isExit = false := by
  have hhealth (health : Health) : (serveHealth health : Action Unit).Confined Script.Exitless
      fun fault => fault.isExit = false :=
    .recover (.bind .send fun _ => .perform Script.Exitless.drawsHealth) fun fault hfault =>
      iteInduction (fun _ => .send) fun _ => .throw hfault
  have hstart : (startHealth settings arguments).Confined Script.Exitless
      fun fault => fault.isExit = false := by
    unfold startHealth
    cases arguments.activeHealthPort with
    | none => exact .pure
    | some port =>
      have hnow : (Act.readNow : Action Calendar.DateTime).Confined Script.Exitless
          fun fault => fault.isExit = false :=
        .bind .world fun _ => .reading Script.Exitless.drawsNow
      exact .bind hnow fun _ => .bind .enter fun _ => hhealth _
  have hserve : (arguments.transport.serve : Action Unit).Confined Script.Exitless
      fun fault => fault.isExit = false := by
    refine .bind .send fun _ => .recover (.perform Script.Exitless.drawsTools)
      fun fault hfault => ?_
    split
    · exact .send
    · exact .throw hfault
  exact .bind hstart fun _ => iteInduction (fun _ => .bind .send fun _ => hserve) fun _ => hserve

theorem serve_confined (settings : Settings) (arguments : Arguments) :
    (serve settings arguments).Confined Script.Exitless fun fault => fault.isExit = false :=
  .bind (confined_startUp Script.Exitless.confining Script.Exitless.drawsPool (fun _ => rfl) _)
    fun _ => offer_confined settings arguments

end Server

end QueryGate
