import QueryGate.Proofs.Database.Transaction
import QueryGate.Proofs.Server.Coherence
import QueryGate.Proofs.Settings.Environment
import QueryGate.Proofs.Tool.Table
import QueryGate.Proofs.World.Confining

/-!
# Answers to inquiries

An inquiry that is not interrupted is answered: with the payload of its result, which is made of
the rows that were fetched; or with the payload of the failure that the exception became, which
says whether the inquiry may be tried again as the exception says.

A failure is written in a payload only if its message is a text. The one fault of the server whose
message may be none is that of a certificate file that cannot be read, because it quotes the path,
and a path in the environment may hold bytes that belong to no character. Such an inquiry makes no
call and then ends with the fault that the payload cannot be written. In an environment whose
values are texts there is no such path.
-/

namespace QueryGate

open QueryGate.Payload QueryGate.Text Behaviour

namespace Fault

/-- A changed request may succeed: an error of the service says so itself, and after any other
fault none is expected to. -/
def recoverable : Fault → Bool
  | .service error => error.recoverable
  | _ => false

/-- An exception whose message is a text, so that a payload can tell it. -/
def Answerable (fault : Fault) : Prop := fault.isException = true ∧ fault.Legible

theorem admitting_answerable : Fault.Admitting Answerable where
  legible := .intro
  quoting := by
    rintro fault - ⟨-, message, hmessage⟩ text
    have hquoted : (Fault.service (.general (text ++ fault.message) true)).message =
        RawText.ofString text ++ fault.message := rfl
    exact ⟨rfl, text ++ message, by rw [hquoted, hmessage, RawText.ofString_append]⟩

end Fault

theorem Payload.Failure.ofFault_recoverable (fault : Fault) :
    (Failure.ofFault fault).recoverable = fault.recoverable := by
  cases fault with
  | service error => cases error <;> rfl
  | _ => rfl

theorem Service.unreadCertificate_answerable {path : RawText} {s : String}
    (h : path.text? = some s) : (unreadCertificate path).Answerable := by
  obtain rfl := RawText.text?_eq_some.mp h
  exact ⟨rfl, _, (RawText.ofString_append _ s).symm⟩

theorem Service.unreadCertificate_undocumented {path : RawText} (h : path.text? = none) :
    ∃ fault, (Failure.ofFault (unreadCertificate path)).document = .error (.unencodable fault) := by
  obtain ⟨fault, hfault⟩ := RawText.encoded_of_text?_eq_none
    (RawText.text?_append_eq_none h "Failed to read SSL root certificate at ")
  have herror : (Failure.ofFault (unreadCertificate path)).error =
      RawText.ofString "Failed to read SSL root certificate at " ++ path := rfl
  exact ⟨fault, by rw [Failure.document, herror, hfault]⟩

/-- All values of the environment are texts. -/
def Environment.OfTexts (environment : Environment) : Prop :=
  ∀ name value, environment.get? name = some value → value.text? ≠ none

namespace Server

/-- The server is not initialised, and the settings that it takes name a certificate file which
cannot be opened and whose path is no text. -/
structure StrayCertificate (stage : Stage Server) (settings : Settings) (path : RawText) :
    Prop where
  uninitialised : stage.self.service = none ∨ stage.self.gate = none
  chosen : chosenSettings stage.self.settings stage.world.environment = .ok settings
  named : settings.certificateFile = some path
  stray : path.text? = none
  unread : ∃ failure refused,
    stage.world.disk.openForReading path = .error (.refused failure refused)

section

variable {stage : Stage Server} {settings : Settings} {path : RawText}

/-- The environment names the path, if the settings come from there. -/
theorem StrayCertificate.environment (h : StrayCertificate stage settings path)
    (hgiven : stage.self.settings = none) :
    stage.world.environment.get? "PG_SSL_ROOT_CERT" = some path := by
  have hloaded : Settings.loaded stage.world.environment = .ok settings := by
    have hchosen := h.chosen
    rw [hgiven, chosenSettings] at hchosen
    rw [Settings.loaded]
    cases hread : Settings.ofEnvironment stage.world.environment with
    | error failure => rw [hread] at hchosen; cases hchosen
    | ok read =>
      rw [hread] at hchosen
      exact hchosen
  obtain ⟨url, -, -, rfl⟩ := Settings.loaded_eq_ok_iff.mp hloaded
  exact (Option.filter_eq_some_iff.mp (Option.filter_eq_some_iff.mp h.named).1).1

theorem StrayCertificate.certificateChecked (h : StrayCertificate stage settings path) :
    Service.certificateChecked settings stage.world.disk =
      .error (Service.unreadCertificate path) := by
  obtain ⟨failure, refused, hopen⟩ := h.unread
  simp only [Service.certificateChecked, h.named, hopen]

/-- The initialisation then fails before it makes a call. -/
theorem StrayCertificate.start_ensureInitialized (h : StrayCertificate stage settings path) :
    ∃ failed, ensureInitialized.start stage =
      (.error (Service.unreadCertificate path), failed) ∧
        failed.world.journal = stage.world.journal := by
  obtain ⟨failed, hstart, hjournal⟩ := start_startUp_unchecked h.chosen h.certificateChecked
  rcases ensureInitialized_cases stage with ⟨service, gate, hservice, hgate, -⟩ | ⟨-, hinit⟩
  · rcases h.uninitialised with hnone | hnone
    · rw [hservice] at hnone; cases hnone
    · rw [hgate] at hnone; cases hnone
  · exact ⟨failed, hinit.trans hstart, hjournal⟩

end

section

variable {scripts : Script → Prop} (h : Act.Confining scripts Fault.Answerable)
  (hpool : Draws scripts Fault.Answerable (·.openPool) fun rest script =>
    { script with openPool := rest })

include h hpool

/-- The initialisation ends with an answerable fault at most, unless there is such a file. -/
theorem confinedAt_ensureInitialized {stage : Stage Server} (hscript : scripts stage.world.script)
    (hstray : ∀ settings path, ¬ StrayCertificate stage settings path) :
    ensureInitialized.ConfinedAt scripts Fault.Answerable stage := by
  rcases ensureInitialized_cases stage with ⟨service, gate, -, -, hinit⟩ | ⟨hlacks, hinit⟩
  · rw [Act.ConfinedAt, hinit]
    refine ⟨?_, hscript⟩
    rintro fault ⟨⟩
  · rw [Act.ConfinedAt, hinit]
    refine confinedAt_startUp h hpool _ hscript fun settings fault hchosen hfault => ?_
    rcases Service.certificateChecked_eq_error hfault with
      rfl | ⟨path, failure, refused, hnamed, hopen, rfl⟩
    · exact ⟨rfl, _, rfl⟩
    · cases htext : path.text? with
      | some s => exact Service.unreadCertificate_answerable htext
      | none =>
        have hfile : StrayCertificate stage settings path :=
          ⟨hlacks, hchosen, hnamed, htext, failure, refused, hopen⟩
        exact absurd hfile (hstray settings path)

omit h hpool in
theorem confined_written (document : Except Unwritable Json) :
    (written document).Confined scripts Fault.Answerable := by
  cases document with
  | ok document => exact .pure
  | error failure => exact .throw ⟨rfl, _, rfl⟩

omit hpool in
theorem Inquiry.confined_work (inquiry : Inquiry) (service : Service) (gate : Gate) :
    (inquiry.work service gate).Confined scripts Fault.Answerable := by
  have hservice : Act.Inherited (σ := Service) Fault.Answerable (fun _ => True) _ := .confined h
  cases inquiry with
  | query sql =>
    exact .bind (.onPart (Tool.inherited_query hservice)) fun _ => .bind .send fun _ =>
      confined_written _
  | tables => exact .bind (.onPart (Tool.inherited_tables hservice)) fun _ => confined_written _
  | tableDetails schema table =>
    exact .bind (.onPart (Tool.inherited_tableDetails hservice)) fun _ => confined_written _

end

namespace Inquiry

/-- An inquiry fails with an answerable fault at most, unless there is such a file. -/
theorem attempt_answerable (inquiry : Inquiry) {stage : Stage Server}
    (hscript : stage.world.script.Allows Fault.Answerable)
    (hstray : ∀ settings path, ¬ StrayCertificate stage settings path) {fault : Fault}
    (hfault : (inquiry.attempt.start stage).1 = .error fault) : fault.Answerable := by
  have hconfining := Script.Allows.confining (fun _ => True) Fault.admitting_answerable
  have hinit := confinedAt_ensureInitialized hconfining (Script.Allows.drawsPool fun _ => True)
    ⟨hscript, trivial⟩ hstray
  exact (hinit.bind fun parts => inquiry.confined_work hconfining parts.1 parts.2).1 fault hfault

theorem handle_result (inquiry : Inquiry) (stage : Stage Server) :
    (inquiry.handle.start stage).1 = answered (inquiry.attempt.start stage).1 := by
  rw [handle_eq, answer, Act.start_recover]
  rcases inquiry.attempt.start stage with ⟨result, mid⟩
  cases result with
  | ok payload => rfl
  | error fault =>
    have hshows : (answerFault inquiry.errorText inquiry.exceptionText fault).Shows
        (ends (answered (.error fault))) := answerFault_shows
    obtain ⟨events, -, -, hresult, -⟩ := hshows mid
    exact hresult

end Inquiry

theorem answered_of_answerable {fault : Fault} (h : fault.Answerable) :
    ∃ document, (Failure.ofFault fault).document = .ok document ∧
      answered (.error fault) = .ok (text document) := by
  obtain ⟨document, hdocument⟩ := Failure.document_of_legible h.2
  refine ⟨document, hdocument, ?_⟩
  rw [answered, if_pos h.1, hdocument]
  rfl

/-- The payload is that of a result that was made of the fetched rows. -/
inductive Inquiry.Succeeds (events : List Event) : Inquiry → String → Prop where
  | query {sql : String} {result : QueryResult} {document : Json}
      (hrows : (fetchedRows events).mapM Entries.ofValue = .ok result.rows)
      (hcount : result.rowCount = result.rows.length) (hdocument : result.document = .ok document) :
      Succeeds events (.query sql) (text document)
  | tables {list : TableList} (hlist : Tool.Lists events list) :
      Succeeds events .tables (text list.document)
  | tableDetails {schema table : String} {details : TableDetails} {document : Json}
      (hdetails : Tool.Details schema table events details)
      (hdocument : details.document = .ok document) :
      Succeeds events (.tableDetails schema table) (text document)

theorem queryPayload_eq_ok {r : Except Fault QueryResult} {payload : String}
    (h : queryPayload r = .ok payload) :
    ∃ result document, r = .ok result ∧ result.document = .ok document ∧
      payload = text document := by
  cases r with
  | error fault => cases h
  | ok result =>
    obtain ⟨document, hdocument, rfl⟩ := payloadOf_eq_ok h
    exact ⟨result, document, rfl, hdocument, rfl⟩

/-- A query that is answered with a result gives the fetched rows and their number. -/
theorem rows_of_answers {readings : Readings} {gate : Gate} {sql : String} {s s' : Service}
    {events : List Event} {r : Except Fault QueryResult} {result : QueryResult}
    (h : Tool.AnswersQueryAt readings gate sql s events r s') (hr : r = .ok result) :
    (fetchedRows events).mapM Entries.ofValue = .ok result.rows ∧
      result.rowCount = result.rows.length := by
  cases h with
  | refused hrefused => cases hr
  | failed haccepted run => cases hr
  | answered haccepted run =>
    obtain ⟨hrows, hcount⟩ := Tool.answer_eq_ok hr
    cases run with
    | timed run hstart hfinish =>
      obtain ⟨-, -, hsettled⟩ := (run.queries.transacts.returns _).mp rfl
      rw [hrows, hcount]
      exact ⟨(Service.settled_eq_ok_iff.mp hsettled).2, rfl⟩

namespace Inquiry

theorem work_shows (inquiry : Inquiry) (service : Service) (gate : Gate) :
    (inquiry.work service gate).Shows fun _ events r _ =>
      ∀ payload, r = .ok payload → inquiry.Succeeds events payload := by
  cases inquiry with
  | query sql =>
    intro stage
    obtain ⟨events, hjournal, result, service', hanswers, hr, -⟩ :=
      work_query_timed sql service gate stage
    refine ⟨events, hjournal, fun payload hpayload => ?_⟩
    obtain ⟨result, document, hresult, hdocument, rfl⟩ :=
      queryPayload_eq_ok (hr.symm.trans hpayload)
    obtain ⟨hrows, hcount⟩ := rows_of_answers hanswers hresult
    exact .query hrows hcount hdocument
  | tables =>
    refine ((onService_shows Tool.tables_shows).bind fun list => Act.Shows.pure).mono ?_
    intro s events r s' hb
    cases hb with
    | stopped first => rintro _ ⟨⟩
    | continued first next =>
      obtain ⟨service', hlist, -⟩ := first
      obtain ⟨rfl, rfl, -⟩ := next
      rintro _ ⟨⟩
      rw [List.append_nil]
      exact .tables (hlist _ rfl)
  | tableDetails schema table =>
    refine ((onService_shows Tool.tableDetails_shows).bind fun details => written_shows).mono ?_
    intro s events r s' hb
    cases hb with
    | stopped first => rintro _ ⟨⟩
    | @continued _ _ details _ _ _ first next =>
      obtain ⟨service', hdetails, -⟩ := first
      obtain ⟨rfl, rfl, -⟩ := next
      rw [List.append_nil]
      cases hdocument : details.document with
      | error failure => rintro _ ⟨⟩
      | ok document =>
        rintro _ ⟨⟩
        exact .tableDetails (hdetails _ rfl) hdocument

theorem handle_returns (inquiry : Inquiry) {stage : Stage Server}
    (hscript : stage.world.script.Allows Fault.Answerable)
    (hstray : ∀ settings path, ¬ StrayCertificate stage settings path) :
    ∃ payload, (inquiry.handle.start stage).1 = .ok payload := by
  rw [handle_result]
  cases hattempt : (inquiry.attempt.start stage).1 with
  | ok payload => exact ⟨payload, rfl⟩
  | error fault =>
    obtain ⟨document, -, hanswered⟩ :=
      answered_of_answerable (inquiry.attempt_answerable hscript hstray hattempt)
    exact ⟨text document, hanswered⟩

/-- An inquiry whose attempt returns makes the calls of its initialisation, and then those that its
result comes from. -/
theorem attempt_succeeds (inquiry : Inquiry) {stage : Stage Server} {payload : String}
    (h : (inquiry.attempt.start stage).1 = .ok payload) :
    ∃ events, (inquiry.handle.start stage).2.world.journal =
        (ensureInitialized.start stage).2.world.journal ++ events ∧
      inquiry.Succeeds events payload := by
  rw [journal_handle]
  rw [attempt, Act.start_bind] at h ⊢
  rcases hinit : ensureInitialized.start stage with ⟨result, started⟩
  rw [hinit] at h
  cases result with
  | error fault => cases h
  | ok parts =>
    obtain ⟨events, hevents, hsucceeds⟩ := inquiry.work_shows parts.1 parts.2 started
    exact ⟨events, hevents, hsucceeds payload h⟩

/-- An inquiry that is not interrupted is answered: with the payload of a result made of the rows
that were fetched, or with the payload of a failure that says whether a changed request may
succeed. The one exception is a certificate file that cannot be read and whose path is no text: then
no call is made, and the payload cannot be written. There is no such file where the settings come
from an environment of texts. An inquiry on an initialised server leaves the server as it is. -/
theorem handle_answers (inquiry : Inquiry) {stage : Stage Server}
    (hscript : stage.world.script.Allows Fault.Answerable) :
    ((∀ settings path, ¬ StrayCertificate stage settings path) →
      ∃ payload, (inquiry.handle.start stage).1 = .ok payload ∧
        (((inquiry.attempt.start stage).1 = .ok payload ∧
            ∃ events, (inquiry.handle.start stage).2.world.journal =
              (ensureInitialized.start stage).2.world.journal ++ events ∧
                inquiry.Succeeds events payload) ∨
          ∃ fault failure document, (inquiry.attempt.start stage).1 = .error fault ∧
            failure = Failure.ofFault fault ∧ failure.recoverable = fault.recoverable ∧
              failure.document = .ok document ∧ payload = text document)) ∧
    (∀ settings path, StrayCertificate stage settings path →
      (∃ fault, (inquiry.handle.start stage).1 = .error (.unwritable (.unencodable fault))) ∧
        (inquiry.handle.start stage).2.world.journal = stage.world.journal) ∧
    (stage.self.settings = none → stage.world.environment.OfTexts →
      ∀ settings path, ¬ StrayCertificate stage settings path) ∧
    ∀ service gate, stage.self.service = some service → stage.self.gate = some gate →
      (inquiry.handle.start stage).2.self = stage.self := by
  refine ⟨fun hstray => ?_, fun settings path hstray => ?_,
    fun hgiven htexts settings path hstray => ?_, fun service gate => inquiry.handle_self⟩
  · rw [handle_result]
    cases hattempt : (inquiry.attempt.start stage).1 with
    | ok payload => exact ⟨payload, rfl, .inl ⟨rfl, inquiry.attempt_succeeds hattempt⟩⟩
    | error fault =>
      obtain ⟨document, hdocument, hanswered⟩ :=
        answered_of_answerable (inquiry.attempt_answerable hscript hstray hattempt)
      exact ⟨text document, hanswered, .inr ⟨fault, _, document, rfl, rfl,
        Failure.ofFault_recoverable fault, hdocument, rfl⟩⟩
  · obtain ⟨failed, hinit, hjournal⟩ := hstray.start_ensureInitialized
    have hattempt : inquiry.attempt.start stage =
        (.error (Service.unreadCertificate path), failed) := Act.start_bind_error hinit _
    obtain ⟨fault, hfault⟩ := Service.unreadCertificate_undocumented hstray.stray
    rw [handle_result, inquiry.journal_handle, hattempt]
    refine ⟨⟨fault, ?_⟩, hjournal⟩
    have hexception : (Service.unreadCertificate path).isException = true := rfl
    rw [answered, if_pos hexception, hfault]
    rfl
  · exact htexts _ _ (hstray.environment hgiven) hstray.stray

/-- The list of tables on a started server whose database refuses the connection. -/
theorem handle_answers_refused :
    let stage := Surroundings.enter { script := { checkOut := [some (.error refusal)] } }
      startedStage
    (∃ failure document, Failure.recoverable failure = false ∧ failure.document = .ok document ∧
      (tables.handle.start stage).1 = .ok (text document)) ∧
      (tables.handle.start stage).2.self = startedStage.self := by
  intro stage
  have hcheckOut : AllowedReplies Fault.Answerable stage.world.script.checkOut := by
    intro fault hmem
    obtain rfl : fault = refusal := by simpa [stage, Surroundings.enter] using hmem
    exact ⟨rfl, _, rfl⟩
  have hscript : stage.world.script.Allows Fault.Answerable :=
    ⟨.nil, hcheckOut, .nil, .nil, .nil, .nil, .nil, .nil, .nil, .nil, .nil⟩
  have hattempt : (tables.attempt.start stage).1 = .error refusal := rfl
  obtain ⟨hanswers, -, -, hself⟩ := handle_answers tables hscript
  refine ⟨?_, hself _ _ rfl rfl⟩
  obtain ⟨payload, hpayload, hanswer⟩ := hanswers fun settings path hstray => by
    rcases hstray.uninitialised with hnone | hnone <;> cases hnone
  rcases hanswer with ⟨hreturned, -⟩ |
    ⟨fault, failure, document, hfault, -, hrecoverable, hdocument, rfl⟩
  · rw [hattempt] at hreturned
    cases hreturned
  · rw [hattempt] at hfault
    cases hfault
    exact ⟨failure, document, hrecoverable, hdocument, hpayload⟩

/-- The path of a file whose name is a byte that belongs to no character. -/
def strayPath : RawText := ("/" : String) ++ ⟨[Settings.strayByte]⟩

/-- A fresh server that is to check the database against a certificate file which is not there. -/
def strayStage : Stage Server :=
  ⟨{}, { environment := [("DATABASE_URL", "postgresql://x"), ("PG_SSL_ROOT_CERT", strayPath)] }⟩

/-- The list of tables is not answered there. -/
theorem handle_unanswered_stray :
    History [] strayStage ∧ strayStage.world.script.Allows Fault.Answerable ∧
      (tables.handle.start strayStage).1.mapError Fault.message =
        .error ("Error serializing to JSON: UnicodeEncodeError: 'utf-8' codec can't encode " ++
          "character '\\udcff' in position 40: surrogates not allowed" : String) :=
  ⟨.fresh _, ⟨.nil, .nil, .nil, .nil, .nil, .nil, .nil, .nil, .nil, .nil, .nil⟩,
    by decide +kernel⟩

end Inquiry

end Server

end QueryGate
