import QueryGate.Proofs.Server.Serving

/-!
# Listening

A server is reached at addresses: its tools at a host and a port, or over the standard streams at
none, and its health service, if there is one, at a host and a port of its own. The process serves
there and nowhere else, the health service first, and if it returns it has served at all of them.
-/

namespace QueryGate

/-- The call serves clients. -/
def Call.serves : Call → Bool
  | .serveTools _ => true
  | .serveHealth _ => true
  | _ => false

/-- Where a server is reached, each service at a host and a port. -/
@[ext]
structure Endpoints where
  /-- The tools; none if they are served over the standard streams. -/
  tools : Option (Value × Value)
  /-- The health service; none if there is none. -/
  health : Option (Value × Int)
  deriving Repr

/-- The calls that serve at the addresses. -/
def Endpoints.calls (endpoints : Endpoints) : List Call :=
  (match endpoints.health with
    | none => []
    | some (host, port) =>
        [.serveHealth [("host", host), ("port", .int port), ("log_level", .text "warning")]]) ++
    [.serveTools (match endpoints.tools with
      | none => Transport.stdio.parameters
      | some (host, port) => (Transport.http host port (.text Transport.defaultPath)).parameters)]

/-- The addresses that a server with these arguments binds. -/
def CommandLine.Arguments.bound (arguments : CommandLine.Arguments) : Endpoints where
  tools :=
    if arguments.mode = .value .stdio then none
    else some (arguments.hostValue, arguments.portValue)
  health := arguments.activeHealthPort.map (arguments.hostValue, ·)

namespace Server

open QueryGate.CommandLine Behaviour

variable {settings : Settings} {arguments : Arguments} {events : List Event}

/-- What is served is served at the addresses, and all of it if the run returns. -/
def Listens (endpoints : Endpoints) : Behaviour Server Unit := fun _ events r _ =>
  (events.map Event.call).filter Call.serves <+: endpoints.calls ∧
    (r = .ok () → (events.map Event.call).filter Call.serves = endpoints.calls)

/-- The calls that set the health service up serve it, and the tools are served behind it. -/
theorem calls_bound (settings : Settings) (arguments : Arguments) :
    arguments.bound.calls = (healthCalls settings arguments).filter Call.serves ++
      [.serveTools arguments.transport.parameters] := by
  have htools : arguments.transport.parameters = (match arguments.bound.tools with
      | none => Transport.stdio.parameters
      | some (host, port) =>
          (Transport.http host port (.text Transport.defaultPath)).parameters) := by
    unfold Arguments.transport Arguments.bound
    by_cases hmode : arguments.mode = .value .stdio
    · rw [if_pos hmode, if_pos hmode]
    · rw [if_neg hmode, if_neg hmode]
  rw [Endpoints.calls, htools]
  congr 1
  rw [healthCalls, Arguments.bound]
  cases arguments.activeHealthPort with
  | none => rfl
  | some port => rfl

theorem serves_of_reaching (h : Reaching events) :
    (events.map Event.call).filter Call.serves = [] := by
  rw [List.filter_eq_nil_iff, List.forall_mem_map]
  intro event hmem
  have hcall := h event hmem
  rcases event with ⟨call, ending⟩
  cases call <;> first | exact Bool.false_ne_true | cases hcall

theorem serve_listens (settings : Settings) (arguments : Arguments) :
    (serve settings arguments).Shows (Listens arguments.bound) := by
  rw [serve_eq]
  refine ((startUp_shows (some settings)).bind fun _ => offer_shows settings arguments).mono ?_
  intro s events r s' hb
  cases hb with
  | stopped starts => cases starts with
    | unreached hcalls fault hservice =>
      rw [Listens, serves_of_reaching hcalls]
      exact ⟨List.nil_prefix, fun h => by cases h⟩
  | continued starts next => cases starts with
    | @reached parameters pool _ _ _ _ =>
      have hreaching := serves_of_reaching (Service.reaching_opening parameters pool)
      rw [Listens, List.map_append, List.filter_append, hreaching, List.nil_append,
        calls_bound settings]
      cases next with
      | withheld health =>
        refine ⟨?_, fun h => by cases h⟩
        cases health with
        | unset fault => exact List.nil_prefix
        | set hcalls r =>
          rw [hcalls]
          exact List.prefix_append _ _
      | offered hcalls ending r =>
        rw [List.map_append, List.filter_append, hcalls]
        exact ⟨List.prefix_rfl, fun _ => rfl⟩

end Server

end QueryGate
