import QueryGate.Proofs.Database.Parts
import QueryGate.Proofs.Server.StartUp
import QueryGate.Proofs.Tool.Query

/-!
# Requests to the server

An inquiry is a request that a tool answers from the database: a query, the list of tables, or
the details of a table. The three are handled in one way: the server is initialised unless it is,
the tool works on the server's service, and any exception on the way becomes the answer. All that
an inquiry changes of the server and of the pools is what its initialisation changes.

A request is answered with the payload of its result, or with the payload of the failure that
its exception becomes; only an interrupt or an exit leaves it without an answer. A request makes
the calls of its initialisation, if it needs one, and then those of its tool, which works on the
server's service. A clean-up closes the service and lets go of it.
-/

namespace QueryGate.Server

variable {α υ : Type}

inductive Inquiry where
  | query (sql : String)
  | tables
  | tableDetails (schema table : String)
  deriving DecidableEq, Repr

namespace Inquiry

def handle : Inquiry → Action String
  | .query sql => handleQuery sql
  | .tables => handleTables
  | .tableDetails schema table => handleTableDetails schema table

/-- What an error of the service is logged as. -/
def errorText : Inquiry → String
  | .query _ => "Query tool error"
  | .tables => "Tables resource error"
  | .tableDetails schema table => "Table detail resource error for " ++ schema ++ "." ++ table

/-- What any other exception is logged as. -/
def exceptionText : Inquiry → String
  | .query _ => "Unexpected error in query tool"
  | .tables => "Unexpected error in tables resource"
  | .tableDetails .. => "Unexpected error in table detail resource"

/-- What is left to do once the server is initialised. -/
def work (service : Service) (gate : Gate) : Inquiry → Action String
  | .query sql => do
      let result ← onService service (Tool.query gate sql)
      log .info ("Query returned " ++ toString result.rowCount ++ " rows in " ++
        logFloat.write result.milliseconds ++ "ms")
      written result.document
  | .tables => do
      let list ← onService service Tool.tables
      written (.ok list.document)
  | .tableDetails schema table => do
      let details ← onService service (Tool.tableDetails schema table)
      written details.document

/-- The inquiry without the answer to its faults. -/
def attempt (inquiry : Inquiry) : Action String := do
  let (service, gate) ← ensureInitialized
  inquiry.work service gate

theorem handle_eq (inquiry : Inquiry) :
    inquiry.handle = answer inquiry.errorText inquiry.exceptionText inquiry.attempt := by
  cases inquiry <;> rfl

end Inquiry

theorem onService_lasting {act : Service.Action α} (hact : act.KeepsStage Stage.lasting)
    {stage : Stage Server} {service : Service} (hservice : stage.self.service = some service) :
    ((onService service act).start stage).2.lasting = stage.lasting := by
  have hkept := hact ⟨service, stage.world⟩
  rw [onService, Act.start_onPart]
  simp only [Stage.lasting, Prod.mk.injEq] at hkept ⊢
  refine ⟨?_, hkept.2⟩
  rw [hkept.1, ← hservice]

theorem written_keepsStage {view : Stage Server → υ} {document : Except Payload.Unwritable Json} :
    (written document).KeepsStage view := by
  cases document with
  | ok document => exact .pure
  | error failure => exact .throw

theorem answerFault_lasting {errorText exceptionText : String} {fault : Fault} :
    (answerFault errorText exceptionText fault).KeepsStage Stage.lasting := by
  cases fault with
  | interrupt message => exact .throw
  | exit code => exact .throw
  | _ => exact .bind .send_lasting fun _ => written_keepsStage

namespace Inquiry

theorem work_lasting (inquiry : Inquiry) {service : Service} {gate : Gate} {stage : Stage Server}
    (hservice : stage.self.service = some service) :
    ((inquiry.work service gate).start stage).2.lasting = stage.lasting := by
  have hinherited : Act.Inherited (fun _ => True) (fun _ => True) _ :=
    .keepsStage (id : Service × Pools → Service × Pools)
  cases inquiry with
  | query sql =>
    have hnext (result : Payload.QueryResult) : (do
        log .info ("Query returned " ++ toString result.rowCount ++ " rows in " ++
          logFloat.write result.milliseconds ++ "ms")
        written result.document : Action String).KeepsStage Stage.lasting :=
      .bind .send_lasting fun _ => written_keepsStage
    exact (Act.KeepsStage.start_bind_view hnext stage).trans
      (onService_lasting (Tool.inherited_query hinherited) hservice)
  | tables =>
    exact (Act.KeepsStage.start_bind_view (fun _ => written_keepsStage) stage).trans
      (onService_lasting (Tool.inherited_tables hinherited) hservice)
  | tableDetails schema table =>
    exact (Act.KeepsStage.start_bind_view (fun _ => written_keepsStage) stage).trans
      (onService_lasting (Tool.inherited_tableDetails hinherited) hservice)

theorem handle_lasting (inquiry : Inquiry) (stage : Stage Server) :
    (inquiry.handle.start stage).2.lasting = (ensureInitialized.start stage).2.lasting := by
  rw [handle_eq, answer, Act.KeepsStage.start_recover_view (fun _ => answerFault_lasting), attempt,
    Act.start_bind]
  rcases hinit : ensureInitialized.start stage with ⟨result, started⟩
  cases result with
  | error fault => rfl
  | ok parts => exact inquiry.work_lasting (ensureInitialized_returns hinit).1

theorem handle_self (inquiry : Inquiry) {stage : Stage Server} {service : Service} {gate : Gate}
    (hservice : stage.self.service = some service) (hgate : stage.self.gate = some gate) :
    (inquiry.handle.start stage).2.self = stage.self := by
  have hlasting := congrArg Prod.fst (inquiry.handle_lasting stage)
  rw [ensureInitialized_of_initialized hservice hgate] at hlasting
  exact hlasting

end Inquiry

end QueryGate.Server

namespace QueryGate

open QueryGate.Payload QueryGate.Text Behaviour

theorem Payload.Failure.document_of_legible {fault : Fault} (h : fault.Legible) :
    ∃ document, (Failure.ofFault fault).document = .ok document := by
  obtain ⟨message, hmessage⟩ := h
  have herror : ∃ error : String, (Failure.ofFault fault).error = error := by
    cases fault with
    | service error => exact ⟨message, by cases error <;> exact hmessage⟩
    | _ => exact ⟨"Unexpected error: " ++ message, by rw [RawText.ofString_append, ← hmessage]; rfl⟩
  obtain ⟨error, herror⟩ := herror
  rw [Failure.document, herror, RawText.encoded_ofString]
  exact ⟨_, rfl⟩

namespace Server

variable {α : Type}

/-- The text of a document, or the fault that it cannot be written. -/
def payloadOf (document : Except Unwritable Json) : Except Fault String :=
  (document.map text).mapError .unwritable

theorem payloadOf_eq_ok {document : Except Unwritable Json} {payload : String}
    (h : payloadOf document = .ok payload) :
    ∃ contents, document = .ok contents ∧ payload = text contents := by
  cases document with
  | ok contents => exact ⟨contents, rfl, (Except.ok.inj h).symm⟩
  | error failure => cases h

theorem written_showsBy {τ : Type} {view : Stage Server → τ} {document : Except Unwritable Json} :
    (written document).ShowsBy view (ends (payloadOf document)) := by
  cases document with
  | ok document => exact .pure
  | error failure => exact .throw

theorem written_shows {document : Except Unwritable Json} :
    (written document).Shows (ends (payloadOf document)) := written_showsBy

/-- What a request gives back, from how its work ended. -/
def answered : Except Fault String → Except Fault String
  | .ok payload => .ok payload
  | .error fault =>
      if fault.isException then payloadOf (Failure.ofFault fault).document else .error fault

theorem answerFault_shows {errorText exceptionText : String} {fault : Fault} :
    (answerFault errorText exceptionText fault).Shows (ends (answered (.error fault))) := by
  cases fault with
  | interrupt message => exact .throw
  | exit code => exact .throw
  | _ => exact .bind_ends .send written_shows

theorem answerFault_keepsClock {errorText exceptionText : String} {fault : Fault} :
    (answerFault errorText exceptionText fault).KeepsStage Stage.clock := by
  cases fault with
  | interrupt message => exact .throw
  | exit code => exact .throw
  | _ => exact .bind .send_clock fun _ => written_keepsStage

/-- An answer makes the calls of the work that it answers for. -/
theorem answer_timed (errorText exceptionText : String) {act : Action String}
    {b : Behaviour (Server × Readings) String} (h : act.ShowsBy Stage.timed b) :
    (answer errorText exceptionText act).ShowsBy Stage.timed fun s events r s' =>
      ∃ ended, b s events ended s' ∧ r = answered ended := by
  have hfault (fault : Fault) : (answerFault errorText exceptionText fault).ShowsBy Stage.timed
      (ends (answered (.error fault))) := answerFault_shows.timed_ends answerFault_keepsClock
  refine (h.recover hfault).mono ?_
  intro s events r s' hb
  cases hb with
  | passed first => exact ⟨_, first, rfl⟩
  | handled first next =>
    obtain ⟨rfl, rfl, rfl⟩ := next
    exact ⟨_, by simpa using first, rfl⟩

/-- Once its first part returned, a request goes on as if it had started there. -/
theorem start_answer_bind {errorText exceptionText : String} {first : Action α}
    {next : α → Action String} {a : α} {stage mid : Stage Server}
    (h : first.start stage = (.ok a, mid)) :
    (answer errorText exceptionText (first >>= next)).start stage =
      (answer errorText exceptionText (next a)).start mid := by
  simp only [answer, Act.start_recover, Act.start_bind, h]

theorem onService_shows {service : Service} {act : Service.Action α} {b : Behaviour Service α}
    (h : act.Shows b) : (onService service act).Shows fun s events r s' =>
      ∃ service', b service events r service' ∧ s' = { s with service := some service' } :=
  .onPart h

theorem Inquiry.journal_handle (inquiry : Inquiry) (stage : Stage Server) :
    (inquiry.handle.start stage).2.world.journal =
      (inquiry.attempt.start stage).2.world.journal := by
  rw [handle_eq]
  exact Act.KeepsStage.start_recover_view (fun fault => .journal_of_ends answerFault_shows) stage

def queryPayload : Except Fault QueryResult → Except Fault String
  | .ok result => payloadOf result.document
  | .error fault => .error fault

theorem Inquiry.work_query_timed (sql : String) (service : Service) (gate : Gate) :
    ((Inquiry.query sql).work service gate).ShowsBy Stage.timed fun s events r s' =>
      ∃ result service', Tool.AnswersQueryAt s.2 gate sql service events result service' ∧
        r = queryPayload result ∧ s'.1 = { s.1 with service := some service' } := by
  have hquery : (onService service (Tool.query gate sql)).ShowsBy Stage.timed _ :=
    .onPart_timed Tool.query_timed
  refine (hquery.bind fun _ => .bind_ends .send_timed written_showsBy).mono ?_
  intro s events r s' hb
  cases hb with
  | stopped first =>
    obtain ⟨service', hanswers, hs'⟩ := first
    exact ⟨_, service', hanswers, rfl, hs'⟩
  | continued first next =>
    obtain ⟨service', hanswers, hs'⟩ := first
    obtain ⟨rfl, rfl, rfl⟩ := next
    exact ⟨_, service', by simpa using hanswers, rfl, hs'⟩

/-- A query on an initialised server makes the calls of the query tool at the readings that are to
come, and leaves the changed service behind. -/
theorem start_handleQuery_at (sql : String) {stage started : Stage Server} {service : Service}
    {gate : Gate} (h : ensureInitialized.start stage = (.ok (service, gate), started)) :
    ∃ events result service',
      ((handleQuery sql).start stage).2.world.journal = started.world.journal ++ events ∧
        Tool.AnswersQueryAt started.world.script.readings gate sql service events result service' ∧
        ((handleQuery sql).start stage).1 = answered (queryPayload result) ∧
        ((handleQuery sql).start stage).2.self =
          { started.self with service := some service' } := by
  rw [handleQuery, start_answer_bind h]
  obtain ⟨events, hjournal, ended, ⟨result, service', hanswers, rfl, hself⟩, hresult⟩ :=
    answer_timed "Query tool error" "Unexpected error in query tool"
      (Inquiry.work_query_timed sql service gate) started
  exact ⟨events, result, service', hjournal, hanswers, hresult, hself⟩

/-- The same under any clock. -/
theorem start_handleQuery (sql : String) {stage started : Stage Server} {service : Service}
    {gate : Gate} (h : ensureInitialized.start stage = (.ok (service, gate), started)) :
    ∃ events result service',
      ((handleQuery sql).start stage).2.world.journal = started.world.journal ++ events ∧
        Tool.AnswersQuery gate sql service events result service' ∧
        ((handleQuery sql).start stage).1 = answered (queryPayload result) ∧
        ((handleQuery sql).start stage).2.self =
          { started.self with service := some service' } := by
  obtain ⟨events, result, service', hjournal, hanswers, hrest⟩ := start_handleQuery_at sql h
  exact ⟨events, result, service', hjournal, hanswers.answers, hrest⟩

/-- The service is closed and let go, also if an exception keeps its pool from being closed. Only
an interrupt or an exit ends a clean-up early, and then the service stays. -/
inductive CleansUp (s : Server) : List Event → Except Fault Unit → Server → Prop where
  | idle (hservice : s.service = none) : CleansUp s [] (.ok ()) s
  | released {service service' : Service} {events : List Event} {r : Except Fault Unit}
      (hservice : s.service = some service) (closes : Service.Closes service events r service')
      (hr : ∀ fault, r = .error fault → fault.isException = true) :
      CleansUp s events (.ok ()) { s with service := none }
  | interrupted {service service' : Service} {events : List Event} {fault : Fault}
      (hservice : s.service = some service)
      (closes : Service.Closes service events (.error fault) service')
      (hfault : fault.isException = false) :
      CleansUp s events (.error fault) { s with service := some service' }

private theorem log_shows {level : Log.Level} {message : RawText} :
    (log level message).Shows (ends (.ok ())) := .send

/-- The handler of a fault of the closing: exceptions are logged. -/
private theorem closeFault_shows {fault : Fault} :
    (if fault.isException then
        log .error ("Error closing database connections: " ++ fault.message)
      else throw fault : Action Unit).Shows
      (ends (if fault.isException then .ok () else .error fault)) := by
  cases fault.isException with
  | true => exact log_shows
  | false => exact .throw

theorem cleanUp_shows : cleanUp.Shows CleansUp := by
  refine .bind_ends log_shows (.bind_self fun s₀ => ?_)
  cases hservice : s₀.service with
  | none =>
    refine log_shows.mono ?_
    rintro s events r s' ⟨rfl, rfl, rfl⟩ rfl
    exact .idle hservice
  | some service =>
    refine (((onService_shows Service.close_shows).recover fun _ => closeFault_shows).bind fun _ =>
      Act.Shows.update.bind fun _ => log_shows).mono ?_
    rintro s events r s' hb rfl
    cases hb with
    | stopped first =>
      cases first with
      | @handled events more fault _ _ _ closes next =>
        obtain ⟨service', closes, rfl⟩ := closes
        obtain ⟨rfl, hended, rfl⟩ := next
        cases hfault : fault.isException with
        | true => simp [hfault] at hended
        | false =>
          obtain rfl : _ = fault := by simpa [hfault] using hended
          simpa using CleansUp.interrupted hservice closes hfault
    | continued first next =>
      cases next with
      | stopped update => cases update.2.1
      | continued update next =>
        obtain ⟨rfl, -, rfl⟩ := update
        obtain ⟨rfl, rfl, rfl⟩ := next
        cases first with
        | passed closes =>
          obtain ⟨service', closes, rfl⟩ := closes
          simpa using CleansUp.released hservice closes (by simp)
        | @handled events more fault _ _ _ closes next =>
          obtain ⟨service', closes, rfl⟩ := closes
          obtain ⟨rfl, hended, rfl⟩ := next
          cases hfault : fault.isException with
          | true => simpa using CleansUp.released hservice closes (by simpa using hfault)
          | false => simp [hfault] at hended

end Server

end QueryGate
