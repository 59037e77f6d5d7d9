import QueryGate.Proofs.CommandLine.Reading
import QueryGate.Proofs.Server.Listening

/-!
# The launcher and its server

The launcher writes the options that it has read as a command line again, and the server reads
that. It accepts it exactly if, over HTTP, a port is given and the text of the host is a plain
argument. What it has read selects the same transport, and its tools are bound where the launcher
announces them. Its health service is so over HTTP. Over the standard streams the command does not
name the host, so that the health service is bound to all addresses, whatever is announced.
-/

namespace QueryGate

/-- The lines that announce addresses. -/
def Endpoints.lines (endpoints : Endpoints) : String :=
  (match endpoints.tools with
    | none => ""
    | some (host, port) =>
        "   Server: http://" ++ host.display ++ ":" ++ port.display ++ "/mcp\n") ++
    (match endpoints.health with
    | none => ""
    | some (host, port) =>
        "   Health API: http://" ++ host.display ++ ":" ++ toString port ++ "/health\n")

namespace CommandLine

open QueryGate.Number QueryGate.Server

variable {program : String} {grammar : Grammar} {progress final : Progress} {spec : OptionSpec}
  {arguments served : Arguments}

/-- The addresses that the launcher announces. -/
def Arguments.announced (arguments : Arguments) : Endpoints where
  tools := if arguments.selectsHttp then some (arguments.hostValue, arguments.portValue) else none
  health := arguments.activeHealthPort.map (arguments.hostValue, ·)

theorem announcement_eq (arguments : Arguments) :
    arguments.announcement = "Starting PostgreSQL MCP Server\n" ++ "   Transport: " ++
      arguments.modeValue.display ++ "\n" ++ arguments.announced.lines := by
  unfold Arguments.announcement Endpoints.lines Arguments.announced
  cases arguments.selectsHttp with
  | true => cases arguments.activeHealthPort <;> simp [String.append_assoc]
  | false => cases arguments.activeHealthPort <;> simp [String.append_assoc]

/-- The integer can be read from some text. -/
def IsRead (n : Int) : Prop := ∃ text : List Char, readInteger text = .ok n

/-- A transport is selected, and the ports can be read. -/
structure Legible (arguments : Arguments) : Prop where
  mode : ∃ mode, arguments.mode = .value mode
  port : ∀ port, arguments.port = .value port → IsRead port
  healthPort : ∀ port, arguments.healthPort = some (.value port) → IsRead port

theorem Legible.activeHealthPort (h : Legible arguments) {port : Int}
    (hactive : arguments.activeHealthPort = some port) : IsRead port := by
  unfold Arguments.activeHealthPort at hactive
  split at hactive
  · next given hgiven =>
    split at hactive
    · cases hactive
    · cases hactive
      exact h.healthPort port hgiven
  · cases hactive

private theorem launcherGrammar_options {option : OptionSpec}
    (h : option ∈ launcherGrammar.options) : option = helpOption ∨ option = hostOption ∨
      option.target = .port ∨ option.target = .healthPort := by
  simp only [launcherGrammar, List.mem_cons, List.not_mem_nil, or_false] at h
  rcases h with rfl | rfl | rfl | rfl
  · exact .inl rfl
  · exact .inr (.inr (.inl rfl))
  · exact .inr (.inl rfl)
  · exact .inr (.inr (.inr rfl))

theorem launcherGrammar_keeps : launcherGrammar.Keeps Legible where
  assign := by
    intro option hoption value arguments changed h hassign
    rcases launcherGrammar_options hoption with rfl | rfl | htarget | htarget
    · cases hassign
    · cases hassign
      exact { h with }
    · obtain ⟨n, hread, rfl⟩ := (assign_port htarget).mp hassign
      refine { h with port := fun port hport => ?_ }
      cases hport
      exact ⟨value.toList, hread⟩
    · obtain ⟨n, hread, rfl⟩ := (assign_healthPort htarget).mp hassign
      refine { h with healthPort := fun port hport => ?_ }
      cases hport
      exact ⟨value.toList, hread⟩
  clear := by
    intro option hoption arguments h
    rcases launcherGrammar_options hoption with rfl | rfl | htarget | htarget
    · exact h
    · exact { h with }
    · rw [OptionSpec.clear, htarget]
      exact { h with port := fun _ hport => by cases hport }
    · rw [OptionSpec.clear, htarget]
      exact { h with healthPort := fun _ hport => by cases hport }
  choose := fun mode h => { h with mode := ⟨mode, rfl⟩ }

theorem legible_of_parse {line : List String} (h : launcherGrammar.parse line = .ok arguments) :
    Legible arguments := by
  refine launcherGrammar_keeps.parse ⟨⟨.stdio, rfl⟩, fun port hport => ?_, fun _ hport => ?_⟩ h
  · cases hport
    exact ⟨"3000".toList, by decide⟩
  · cases hport

theorem exists_serverGrammar {environment : Environment}
    (h : serverGrammarIn program environment = .ok grammar) :
    ∃ port, grammar = serverGrammar program port := by
  unfold serverGrammarIn at h
  split at h
  · cases h
    exact ⟨_, rfl⟩
  · obtain ⟨port, -, h⟩ := of_bind_eq_ok h
    cases h
    exact ⟨port, rfl⟩

theorem serverGrammar_numberFree (program : String) (port : Int) :
    (serverGrammar program port).NumberFree := by
  have hspellings : ∀ pair ∈ (serverGrammar program port).spellings,
      pair.1 ∈ ["-h", "--help", "--transport", "--host", "--port", "--health-port"] := by
    simp [serverGrammar, Grammar.spellings, helpOption, hostOption, portOption, healthPortOption]
  have hsecond : ∀ spelling ∈ ["-h", "--help", "--transport", "--host", "--port", "--health-port"],
      (spelling.toList.drop 1).head?.any Char.isDigit = false := by decide
  intro pair hpair c rest htext
  simpa [htext] using hsecond _ (hspellings pair hpair)

section

variable {port : Int} {texts : List String}

theorem read_transport (mode : Mode) :
    (serverGrammar program port).read progress ("--transport" :: mode.word :: texts) = .ok final ↔
      (serverGrammar program port).read { progress with
        arguments := { progress.arguments with mode := .value mode } } texts = .ok final := by
  have hspelling : (serverGrammar program port).classify "--transport" = .ok (.option
      ⟨.transport, ["--transport"], modePlaceholder, "Transport mode: stdio (default) or http"⟩
      none) := rfl
  have hplain : (serverGrammar program port).classify mode.word = .ok (.argument mode.word) := by
    cases mode <;> rfl
  have hmode : Mode.ofWord? mode.word = some mode := by cases mode <;> rfl
  rw [read_pair_eq_ok_iff hspelling (by decide) rfl]
  simp [hplain, assign_transport, hmode]

theorem read_address {host shown : String} :
    (serverGrammar program port).read progress ("--host" :: host :: "--port" :: shown :: texts) =
        .ok final ↔
      (serverGrammar program port).classify host = .ok (.argument host) ∧
      (serverGrammar program port).classify shown = .ok (.argument shown) ∧
      ∃ n, readInteger shown.toList = .ok n ∧
        (serverGrammar program port).read { progress with
          arguments := { progress.arguments with host := .value host, port := .value n } } texts =
            .ok final := by
  have hhost : (serverGrammar program port).classify "--host" =
      .ok (.option hostOption none) := rfl
  have hport : (serverGrammar program port).classify "--port" =
      .ok (.option (portOption "Port for HTTP server (default: $PORT or 3000)") none) := rfl
  rw [read_pair_eq_ok_iff hhost (by decide) rfl]
  simp only [OptionSpec.assign, hostOption, Except.ok.injEq, exists_eq_left']
  rw [read_pair_eq_ok_iff hport (by decide) rfl]
  simp [assign_port, portOption]

/-- The progress of the server before it reads an argument. -/
def serverStart (port : Int) : Progress :=
  ⟨⟨.value .stdio, .value Transport.defaultHost, .value port, none⟩, false, []⟩

theorem parse_server_iff : (serverGrammar program port).parse texts = .ok served ↔
    ∃ final, (serverGrammar program port).read (serverStart port) texts = .ok final ∧
      final.leftovers = [] ∧ final.arguments = served := parse_eq_ok_iff

/-- The part of a command line that sets the health service up. -/
def healthTexts (arguments : Arguments) : List String :=
  match arguments.activeHealthPort with
  | none => []
  | some port => ["--health-port", toString port]

theorem read_healthTexts (h : Legible arguments) (hnone : progress.arguments.healthPort = none) :
    (serverGrammar program port).read progress (healthTexts arguments) = .ok final ↔
      { progress with arguments := { progress.arguments with
        healthPort := arguments.activeHealthPort.map .value } } = final := by
  unfold healthTexts
  cases hactive : arguments.activeHealthPort with
  | none =>
    rw [read_nil, Option.map_none, ← hnone, Except.ok.injEq]
  | some health =>
    have hspelling : (serverGrammar program port).classify "--health-port" =
        .ok (.option (healthPortOption "Port for health API (disabled when omitted)") none) := rfl
    obtain ⟨text, hread⟩ := h.activeHealthPort hactive
    have hread := readInteger_toString_of_read hread
    have hplain := classify_toString (serverGrammar_numberFree program port) health
    rw [read_pair_eq_ok_iff hspelling (by decide) rfl]
    generalize toString health = shown at hread hplain
    simp [assign_healthPort, healthPortOption, hplain, hread]

end

/-- The server reads the command of the launcher. -/
def Starts (grammar : Grammar) (arguments served : Arguments) : Prop :=
  ∃ texts : List String, arguments.forServer = texts.map .text ∧ grammar.parse texts = .ok served

theorem starts_iff_parse {texts : List String} (h : arguments.forServer = texts.map .text) :
    Starts grammar arguments served ↔ grammar.parse texts = .ok served := by
  constructor
  · rintro ⟨others, hothers, hparse⟩
    have hinjective : Function.Injective Value.text := fun _ _ heq => Value.text.inj heq
    rwa [hinjective.list_map (h.symm.trans hothers)]
  · exact fun hparse => ⟨texts, h, hparse⟩

theorem forServer_stdio (h : arguments.mode = .value .stdio) : arguments.forServer =
    ("--transport" :: Mode.stdio.word :: healthTexts arguments).map .text := by
  unfold Arguments.forServer Arguments.selectsHttp healthTexts
  simp only [h, Arguments.modeValue, Choice.toValue]
  cases arguments.activeHealthPort <;> rfl

theorem forServer_http (h : arguments.mode = .value .http) :
    arguments.forServer = [.text "--transport", .text Mode.http.word, .text "--host",
      arguments.hostValue, .text "--port", .text arguments.portValue.display] ++
        (healthTexts arguments).map .text := by
  unfold Arguments.forServer Arguments.selectsHttp healthTexts
  simp only [h, Arguments.modeValue, Choice.toValue]
  cases arguments.activeHealthPort <;> rfl

section

variable {port : Int}

/-- Over the standard streams, the server has its own host and port. -/
theorem starts_stdio_iff (h : Legible arguments) (hmode : arguments.mode = .value .stdio) :
    Starts (serverGrammar program port) arguments served ↔
      ⟨.value .stdio, .value Transport.defaultHost, .value port,
        arguments.activeHealthPort.map .value⟩ = served := by
  rw [starts_iff_parse (forServer_stdio hmode), parse_server_iff]
  simp [read_transport, serverStart, read_healthTexts h]

theorem not_starts_of_cleared (hmode : arguments.mode = .value .http)
    (hhost : arguments.host = .cleared) : ¬ Starts grammar arguments served := by
  rintro ⟨texts, htexts, -⟩
  have hmem : Value.list [] ∈ texts.map Value.text := by
    simp [← htexts, forServer_http hmode, Arguments.hostValue, hhost, Choice.toValue]
  obtain ⟨_, -, hlist⟩ := List.mem_map.mp hmem
  cases hlist

/-- Over HTTP, the server has the host and the port of the launcher. -/
theorem starts_http_iff (h : Legible arguments) (hmode : arguments.mode = .value .http) :
    Starts (serverGrammar program port) arguments served ↔
      ∃ host shown, arguments.host = .value host ∧ arguments.port = .value shown ∧
        (serverGrammar program port).classify host = .ok (.argument host) ∧
        ⟨.value .http, .value host, .value shown, arguments.activeHealthPort.map .value⟩ =
          served := by
  cases hhost : arguments.host with
  | cleared => simp [not_starts_of_cleared hmode hhost]
  | value host =>
    have htexts : arguments.forServer = ("--transport" :: Mode.http.word :: "--host" :: host ::
        "--port" :: arguments.portValue.display :: healthTexts arguments).map .text := by
      simp [forServer_http hmode, Arguments.hostValue, hhost, Choice.toValue]
    rw [starts_iff_parse htexts, parse_server_iff]
    simp only [read_transport, read_address]
    cases hport : arguments.port with
    | cleared =>
      -- A cleared port is shown as an empty list, which is a text, but no integer.
      have hshown : arguments.portValue.display = "[]" := by rw [Arguments.portValue, hport]; rfl
      have hread (n : Int) : readInteger ['[', ']'] ≠ .ok n := fun hok => by cases hok
      simp [hshown, hread]
    | value shown =>
      have hshown : arguments.portValue.display = toString shown := by
        rw [Arguments.portValue, hport]
        rfl
      obtain ⟨text, hread⟩ := h.port shown hport
      have hread := readInteger_toString_of_read hread
      have hplain := classify_toString (serverGrammar_numberFree program port) shown
      rw [hshown]
      generalize toString shown = shownText at hread hplain
      simp [hplain, hread, serverStart, read_healthTexts h]

end

/-- A server is started that selects the same transport and binds what is announced. -/
def Agrees (grammar : Grammar) (arguments : Arguments) : Prop :=
  ∃ served, Starts grammar arguments served ∧ served.mode = arguments.mode ∧
    served.bound = arguments.announced

/-- Over HTTP, the server can read the host and the port. -/
def Readable (grammar : Grammar) (arguments : Arguments) : Prop :=
  arguments.mode = .value .http →
    (∃ host, arguments.host = .value host ∧ grammar.classify host = .ok (.argument host)) ∧
      ∃ port, arguments.port = .value port

/-- Over the standard streams, a health service is announced at the default host only. -/
def KeepsHost (arguments : Arguments) : Prop :=
  arguments.mode = .value .stdio → arguments.activeHealthPort = none ∨
    arguments.host = .value Transport.defaultHost

/-- How far the server that the launcher starts does what is announced. -/
structure Agreement (grammar : Grammar) (line : List String) (arguments : Arguments) : Prop where
  agrees : Agrees grammar arguments ↔ Readable grammar arguments ∧ KeepsHost arguments
  accepted : (∃ served, Starts grammar arguments served) ↔ Readable grammar arguments
  /-- A server that is started differs at most in the host of its health service. -/
  started : ∀ served, Starts grammar arguments served → served.mode = arguments.mode ∧
    served.bound.tools = arguments.announced.tools ∧
      served.activeHealthPort = arguments.activeHealthPort
  listens : ∀ settings served, (serve settings served).Shows (Listens served.bound)
  /-- The command of the server is the only one that is started, and the addresses are announced
  before. -/
  launched : ∀ interpreter child,
    (launch interpreter child line).commands = [serverCommand interpreter arguments] ∧
      ("Starting PostgreSQL MCP Server\n" ++ "   Transport: " ++ arguments.modeValue.display ++
        "\n" ++ arguments.announced.lines).toList <+: (launch interpreter child line).errors.toList

/-- A health port that is active stays so when it is read again. -/
theorem activeHealthPort_read (arguments : Arguments) (mode : Choice Mode) (host : Choice String)
    (port : Choice Int) :
    (⟨mode, host, port, arguments.activeHealthPort.map .value⟩ : Arguments).activeHealthPort =
      arguments.activeHealthPort := by
  have hactive : ∀ health, arguments.activeHealthPort = some health → health ≠ 0 := by
    intro health h
    unfold Arguments.activeHealthPort at h
    split at h
    · split at h
      · cases h
      · next hne =>
        cases h
        exact hne
    · cases h
  cases hhealth : arguments.activeHealthPort with
  | none => rfl
  | some health => simp [Arguments.activeHealthPort, hactive health hhealth]

theorem launch_launched {line : List String} (h : launcherGrammar.parse line = .ok arguments)
    (interpreter : String) (child : Except Fault Int) :
    (launch interpreter child line).commands = [serverCommand interpreter arguments] ∧
      arguments.announcement.toList <+: (launch interpreter child line).errors.toList := by
  rw [launch, h]
  cases child with
  | ok code => exact ⟨rfl, List.prefix_rfl⟩
  | error fault => cases fault with
    | interrupt message =>
      refine ⟨rfl, ?_⟩
      rw [String.toList_append]
      exact List.prefix_append _ _
    | _ => exact ⟨rfl, List.prefix_rfl⟩

section

variable {port : Int}

theorem starts_started (h : Legible arguments)
    (hstarts : Starts (serverGrammar program port) arguments served) :
    served.mode = arguments.mode ∧ served.bound.tools = arguments.announced.tools ∧
      served.activeHealthPort = arguments.activeHealthPort := by
  obtain ⟨mode, hmode⟩ := h.mode
  cases mode with
  | stdio =>
    obtain rfl := (starts_stdio_iff h hmode).mp hstarts
    refine ⟨hmode.symm, ?_, activeHealthPort_read ..⟩
    simp [Arguments.bound, Arguments.announced, Arguments.selectsHttp, hmode]
  | http =>
    obtain ⟨host, shown, hhost, hport, -, rfl⟩ := (starts_http_iff h hmode).mp hstarts
    refine ⟨hmode.symm, ?_, activeHealthPort_read ..⟩
    simp [Arguments.bound, Arguments.announced, Arguments.selectsHttp, hmode, hhost, hport,
      Arguments.hostValue, Arguments.portValue]

theorem readable_of_head {host : String} {shown : Int} (hhost : arguments.host = .value host)
    (hport : arguments.port = .value shown) (hhead : host.toList.head? ≠ some '-') :
    Readable grammar arguments :=
  fun _ => ⟨⟨host, hhost, classify_of_head hhead⟩, shown, hport⟩

theorem starts_accepted (h : Legible arguments) :
    (∃ served, Starts (serverGrammar program port) arguments served) ↔
      Readable (serverGrammar program port) arguments := by
  obtain ⟨mode, hmode⟩ := h.mode
  cases mode with
  | stdio => simp [starts_stdio_iff h hmode, Readable, hmode]
  | http =>
    simp only [starts_http_iff h hmode, Readable, hmode, true_implies]
    constructor
    · rintro ⟨served, host, shown, hhost, hport, hplain, -⟩
      exact ⟨⟨host, hhost, hplain⟩, shown, hport⟩
    · rintro ⟨⟨host, hhost, hplain⟩, shown, hport⟩
      exact ⟨_, host, shown, hhost, hport, hplain, rfl⟩

theorem starts_health (h : Legible arguments)
    (hstarts : Starts (serverGrammar program port) arguments served) :
    served.bound.health = arguments.announced.health ↔ KeepsHost arguments := by
  have hactive := (starts_started h hstarts).2.2
  simp only [Arguments.bound, Arguments.announced, hactive]
  obtain ⟨mode, hmode⟩ := h.mode
  cases mode with
  | stdio =>
    obtain rfl := (starts_stdio_iff h hmode).mp hstarts
    cases hhealth : arguments.activeHealthPort with
    | none => simp [KeepsHost, hhealth]
    | some health =>
      cases hhost : arguments.host <;>
        simp [KeepsHost, hmode, hhost, hhealth, Arguments.hostValue, Choice.toValue, eq_comm]
  | http =>
    obtain ⟨host, shown, hhost, -, -, rfl⟩ := (starts_http_iff h hmode).mp hstarts
    simp [KeepsHost, hmode, hhost, Arguments.hostValue]

theorem agrees_iff (h : Legible arguments) : Agrees (serverGrammar program port) arguments ↔
    Readable (serverGrammar program port) arguments ∧ KeepsHost arguments := by
  rw [← starts_accepted h]
  constructor
  · rintro ⟨served, hstarts, -, hbound⟩
    exact ⟨⟨served, hstarts⟩, (starts_health h hstarts).mp (congrArg Endpoints.health hbound)⟩
  · rintro ⟨⟨served, hstarts⟩, hkeeps⟩
    obtain ⟨hmode, htools, -⟩ := starts_started h hstarts
    have hhealth := (starts_health h hstarts).mpr hkeeps
    exact ⟨served, hstarts, hmode, Endpoints.ext htools hhealth⟩

end

/-- The launcher and the server that it starts agree exactly if the server can read the host and the
port over HTTP and no other host than the default is announced over the standard streams. Nothing
else is refused, and a server that is started always selects the same transport, serves the tools
where they are announced, and has the announced health port. -/
theorem launcher_server_agreement {environment : Environment} {line : List String}
    (hgrammar : serverGrammarIn program environment = .ok grammar)
    (hline : launcherGrammar.parse line = .ok arguments) : Agreement grammar line arguments := by
  obtain ⟨port, rfl⟩ := exists_serverGrammar hgrammar
  have hlegible := legible_of_parse hline
  refine ⟨agrees_iff hlegible, starts_accepted hlegible, fun served => starts_started hlegible,
    serve_listens, fun interpreter child => ?_⟩
  rw [← announcement_eq]
  exact launch_launched hline interpreter child

/-- A host and a health port over HTTP, with another port in the environment. -/
theorem launcher_server_agreement_http :
    let grammar := serverGrammar "server" 5000
    let arguments : Arguments :=
      ⟨.value .http, .value "127.0.0.1", .value 1, some (.value 8080)⟩
    serverGrammarIn "server" [("PORT", "5000")] = .ok grammar ∧
      launcherGrammar.parse
        ["http", "--host", "127.0.0.1", "--port", "1", "--health-port", "8080"] = .ok arguments ∧
      Agrees grammar arguments := by
  intro grammar arguments
  have hgrammar : serverGrammarIn "server" [("PORT", "5000")] = .ok grammar := by
    have hget : Environment.get? [("PORT", "5000")] "PORT" = some (.ofString "5000") := rfl
    have hport : portOf "5000" = .ok 5000 := by
      rw [portOf, Text.RawText.text?_ofString]
      rfl
    rw [serverGrammarIn, hget]
    simp only [hport]
    rfl
  have hline : launcherGrammar.parse
      ["http", "--host", "127.0.0.1", "--port", "1", "--health-port", "8080"] = .ok arguments := rfl
  have hreadable : Readable grammar arguments := readable_of_head rfl rfl (by decide)
  have hkeeps : KeepsHost arguments := fun hstdio => by cases hstdio
  exact ⟨hgrammar, hline,
    (launcher_server_agreement hgrammar hline).agrees.mpr ⟨hreadable, hkeeps⟩⟩

/-- Over the standard streams, the health service is announced at the given host, but the server
that is started binds it to all addresses. -/
theorem stdio_health_bound_elsewhere :
    let grammar := serverGrammar "server" Transport.defaultPort
    let arguments : Arguments :=
      ⟨.value .stdio, .value "127.0.0.1", .value 3000, some (.value 8080)⟩
    serverGrammarIn "server" [] = .ok grammar ∧
      launcherGrammar.parse ["stdio", "--host", "127.0.0.1", "--health-port", "8080"] =
        .ok arguments ∧
      arguments.announced.health = some (.text "127.0.0.1", 8080) ∧
      (∃ served, Starts grammar arguments served ∧
        served.bound.health = some (.text "0.0.0.0", 8080)) ∧
      ¬ Agrees grammar arguments := by
  intro grammar arguments
  have hline : launcherGrammar.parse ["stdio", "--host", "127.0.0.1", "--health-port", "8080"] =
      .ok arguments := rfl
  have hlegible := legible_of_parse hline
  have hstarts : Starts grammar arguments ⟨.value .stdio, .value Transport.defaultHost,
      .value Transport.defaultPort, some (.value 8080)⟩ := (starts_stdio_iff hlegible rfl).mpr rfl
  refine ⟨rfl, hline, rfl, ⟨_, hstarts, rfl⟩, fun hagrees => ?_⟩
  have hkeeps : KeepsHost arguments := ((agrees_iff hlegible).mp hagrees).2
  rcases hkeeps rfl with hnone | hhost
  · cases hnone
  · exact absurd hhost (by decide)

end CommandLine

end QueryGate
