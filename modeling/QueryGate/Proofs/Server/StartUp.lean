import QueryGate.Proofs.Database.Parts
import QueryGate.Proofs.World.Confining
import QueryGate.Server.Basic

/-!
# Starting the server up

A start-up takes its settings, and with them the gate, before it reaches for the database. Only a
service that was opened and probed becomes the server's own; it is made with the same settings.
After a start-up that did not reach the database the server has the new settings and the new gate,
and the service that it had before.
-/

namespace QueryGate.Server

/-- The settings that a start-up takes, the given ones or those of the environment. -/
def chosenSettings (given : Option Settings) (environment : Environment) : Except Fault Settings :=
  match given with
  | some settings => .ok settings
  | none => match Settings.ofEnvironment environment with
    | .ok settings => .ok settings
    | .error failure => .error (Fault.ofSettingsError failure)

def gateOf (settings : Settings) : Gate := ⟨settings.allowWrites, Log.Channel.serverGate⟩

/-- How a start-up ends, and the server after it. -/
inductive StartsUp (given : Option Settings) (environment : Environment) (s : Server) :
    Except Fault (Service × Gate) → Server → Prop where
  | unsettled {fault : Fault} (hchosen : chosenSettings given environment = .error fault) :
      StartsUp given environment s (.error fault) s
  | unreached {settings : Settings} (hchosen : chosenSettings given environment = .ok settings)
      (fault : Fault) :
      StartsUp given environment s (.error fault)
        { s with settings := some settings, gate := some (gateOf settings) }
  | reached {settings : Settings} {service : Service}
      (hchosen : chosenSettings given environment = .ok settings)
      (hservice : service.settings = settings) :
      StartsUp given environment s (.ok (service, gateOf settings))
        ⟨some settings, some service, some (gateOf settings)⟩

theorem start_chooseSettings (given : Option Settings) (stage : Stage Server) :
    (chooseSettings given).start stage = (chosenSettings given stage.world.environment, stage) := by
  cases given with
  | some settings => rfl
  | none =>
    simp only [chooseSettings, chosenSettings, Act.start_bind, Act.start_world]
    cases Settings.ofEnvironment stage.world.environment <;> rfl

private theorem opened_settings (settings : Settings) (world : World) :
    (((do Service.connect; Service.probe : Service.Action Unit).start
      ⟨Service.new settings, world⟩).2.self).settings = settings :=
  Act.Keeps.bind Service.connect_keeps (fun _ => Service.probe_keeps) ⟨Service.new settings, world⟩

theorem startUp_startsUp (given : Option Settings) (stage : Stage Server) :
    StartsUp given stage.world.environment stage.self ((startUp given).start stage).1
      ((startUp given).start stage).2.self := by
  rw [startUp, Act.start_bind, start_chooseSettings]
  cases hchosen : chosenSettings given stage.world.environment with
  | error fault => exact .unsettled hchosen
  | ok settings =>
    have hsettings := opened_settings settings stage.world
    dsimp only
    rw [Act.start_bind, Act.start_update]
    dsimp only
    rw [Act.start_bind, Act.start_onOther]
    rcases hopened : (do Service.connect; Service.probe : Service.Action Unit).start
      ⟨Service.new settings, stage.world⟩ with ⟨result, opened⟩
    rw [hopened] at hsettings
    cases result with
    | error fault => exact .unreached hchosen fault
    | ok _ =>
      have hreached := StartsUp.reached (s := stage.self) hchosen hsettings
      rw [gateOf] at hreached
      cases hwrites : settings.allowWrites <;> rw [hwrites] at hreached <;> exact hreached

section

variable {scripts : Script → Prop} {allowed : Fault → Prop}

/-- A fault of the settings is an exception, whose message is a text. -/
theorem chosenSettings_eq_error {given : Option Settings} {environment : Environment}
    {fault : Fault} (h : chosenSettings given environment = .error fault) :
    fault.isException = true ∧ fault.Legible := by
  cases given with
  | some settings => cases h
  | none =>
    rw [chosenSettings] at h
    cases hread : Settings.ofEnvironment environment with
    | ok settings => rw [hread] at h; cases h
    | error failure =>
      rw [hread] at h
      obtain rfl := Except.error.inj h
      exact ⟨rfl, _, rfl⟩

/-- The database is reached, or not, with allowed faults only, where the check of the certificate
file ends so. -/
private theorem confinedAt_opening (h : Act.Confining scripts allowed)
    (hpool : Draws scripts allowed (·.openPool) fun rest script => { script with openPool := rest })
    {stage : Stage Service} (hscript : scripts stage.world.script)
    (hchecked : ∀ fault, Service.certificateChecked stage.self.settings stage.world.disk =
      .error fault → allowed fault) :
    (do
      Service.connect
      Service.probe : Service.Action Unit).ConfinedAt scripts allowed stage := by
  have hcheck :
      (Service.checkCertificate stage.self.settings).ConfinedAt scripts allowed stage := by
    obtain ⟨records, hstart⟩ := Service.start_checkCertificate stage.self.settings stage
    rw [Act.ConfinedAt, hstart]
    exact ⟨hchecked, hscript⟩
  have hinherited : Act.Inherited allowed Service.IsOwn
      (fun {α : Type} (act : Service.Action α) => act.Confined scripts allowed) := .confined h
  have hconnect : Service.connect.ConfinedAt scripts allowed stage :=
    .bind_ok (Act.start_self stage) (hcheck.bind fun _ =>
      Service.inherited_openOwn hinherited (fun _ => .openPool hpool) fun _ => .update)
  exact hconnect.bind fun _ => Service.inherited_probe hinherited fun _ => .update

/-- A start-up fails with an allowed fault, where the check of the certificate file does so. -/
theorem confinedAt_startUp (h : Act.Confining scripts allowed)
    (hpool : Draws scripts allowed (·.openPool) fun rest script => { script with openPool := rest })
    (given : Option Settings) {stage : Stage Server} (hscript : scripts stage.world.script)
    (hchecked : ∀ settings fault, chosenSettings given stage.world.environment = .ok settings →
      Service.certificateChecked settings stage.world.disk = .error fault → allowed fault) :
    (startUp given).ConfinedAt scripts allowed stage := by
  have hend (parts : Service × Gate) : (do
      log .info "Database connection established"
      return parts : Action (Service × Gate)).Confined scripts allowed := .bind .send fun _ => .pure
  have hstart := start_chooseSettings given stage
  cases hchosen : chosenSettings given stage.world.environment with
  | error fault =>
    obtain ⟨hexception, hlegible⟩ := chosenSettings_eq_error hchosen
    rw [hchosen] at hstart
    rw [Act.ConfinedAt, startUp, Act.start_bind_error hstart]
    refine ⟨?_, hscript⟩
    rintro _ ⟨⟩
    exact h.admits.legible hexception hlegible
  | ok settings =>
    have hopened (server : Server) : (Act.onOther (Service.new settings) (do
        Service.connect
        Service.probe) : Action (Unit × Service)).ConfinedAt scripts allowed
          ⟨server, stage.world⟩ :=
      .onOther (confinedAt_opening h hpool hscript fun fault => hchecked settings fault hchosen)
    rw [hchosen] at hstart
    exact .bind_ok hstart (.bind_ok (Act.start_update _ _) ((hopened _).bind fun opened =>
      .bind .update fun _ => iteInduction (fun _ => .bind .send fun _ => hend _) fun _ => hend _))

/-- A start-up whose certificate file is not accepted fails before it makes a call. -/
theorem start_startUp_unchecked {given : Option Settings} {stage : Stage Server}
    {settings : Settings} {fault : Fault}
    (hchosen : chosenSettings given stage.world.environment = .ok settings)
    (hchecked : Service.certificateChecked settings stage.world.disk = .error fault) :
    ∃ failed, (startUp given).start stage = (.error fault, failed) ∧
      failed.world.journal = stage.world.journal := by
  have hstart := start_chooseSettings given stage
  rw [hchosen] at hstart
  obtain ⟨records, hcheck⟩ :=
    Service.start_checkCertificate settings ⟨Service.new settings, stage.world⟩
  rw [hchecked] at hcheck
  have hconnect : (do
      Service.connect
      Service.probe : Service.Action Unit).start ⟨Service.new settings, stage.world⟩ =
        (.error fault, ⟨Service.new settings,
          { stage.world with records := stage.world.records ++ records }⟩) := by
    refine Act.start_bind_error ?_ _
    rw [Service.connect, Act.start_bind_ok (Act.start_self _)]
    exact Act.start_bind_error hcheck _
  rw [startUp, Act.start_bind_ok hstart, Act.start_bind_ok (Act.start_update _ _), Act.start_bind,
    Act.start_onOther, hconnect]
  exact ⟨_, rfl, rfl⟩

theorem confined_startUp (h : Act.Confining scripts allowed)
    (hpool : Draws scripts allowed (·.openPool) fun rest script => { script with openPool := rest })
    (hunread : ∀ path, allowed (Service.unreadCertificate path)) (given : Option Settings) :
    (startUp given).Confined scripts allowed := by
  refine fun stage hscript =>
    confinedAt_startUp h hpool given hscript fun settings fault _ hfault =>
    ?_
  rcases Service.certificateChecked_eq_error hfault with rfl | ⟨path, _, _, _, _, rfl⟩
  · exact h.admits.legible rfl ⟨_, rfl⟩
  · exact hunread path

end

theorem ensureInitialized_of_initialized {stage : Stage Server} {service : Service} {gate : Gate}
    (hservice : stage.self.service = some service) (hgate : stage.self.gate = some gate) :
    ensureInitialized.start stage = (.ok (service, gate), stage) := by
  rw [ensureInitialized, Act.start_bind, Act.start_self]
  simp only [hservice, hgate, Act.start_pure]

/-- What the initialisation leaves of the server, and what it returns. -/
theorem ensureInitialized_cases (stage : Stage Server) :
    (∃ service gate, stage.self.service = some service ∧ stage.self.gate = some gate ∧
      ensureInitialized.start stage = (.ok (service, gate), stage)) ∨
    ((stage.self.service = none ∨ stage.self.gate = none) ∧
      ensureInitialized.start stage = (startUp stage.self.settings).start stage) := by
  rw [ensureInitialized, Act.start_bind, Act.start_self]
  dsimp only
  cases stage.self.service with
  | none => exact .inr ⟨.inl rfl, rfl⟩
  | some service => cases stage.self.gate with
    | none => exact .inr ⟨.inr rfl, rfl⟩
    | some gate => exact .inl ⟨service, gate, rfl, rfl, rfl⟩

/-- What the initialisation returns is the server's own. -/
theorem ensureInitialized_returns {stage started : Stage Server} {service : Service} {gate : Gate}
    (h : ensureInitialized.start stage = (.ok (service, gate), started)) :
    started.self.service = some service ∧ started.self.gate = some gate := by
  rcases ensureInitialized_cases stage with ⟨_, _, hservice, hgate, hstart⟩ | ⟨-, hstart⟩
  · rw [hstart] at h
    cases h
    exact ⟨hservice, hgate⟩
  · have hstarts := startUp_startsUp stage.self.settings stage
    rw [← hstart, h] at hstarts
    dsimp only at hstarts
    generalize started.self = server at hstarts ⊢
    cases hstarts
    exact ⟨rfl, rfl⟩

end QueryGate.Server
