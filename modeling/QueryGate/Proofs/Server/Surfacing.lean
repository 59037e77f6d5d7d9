import QueryGate.Proofs.Database.Surfacing
import QueryGate.Proofs.Server.Answering
import QueryGate.Proofs.Server.Committed

/-!
# Errors of the driver reach the client

If a single call fails while an initialised server answers an inquiry, and it fails with an error
of the driver, then no layer on the way to the client loses what the database said: the answer is
the payload of a failure with a text, which says that the inquiry may be tried again, and with the
state code and the detail of the driver's error. The calls end rolled back.
-/

namespace QueryGate

open QueryGate.Payload

namespace Tool

variable {σ α : Type}

theorem accept_silent {record : String} {checked : Validation.Checked α} :
    (accept record checked : Act σ α).KeepsStage fun stage => stage.world.journal :=
  .journal_of_silent (accept_shows.mono fun _ _ _ _ h => h.1.1)

theorem timedQuery_surfaces {sql : String} {readOnly : Bool} :
    (timedQuery sql readOnly).Surfaces := by
  have hclock : (Act.readClock : Service.Action Number.Double).KeepsStage
      fun stage => stage.world.journal :=
    .journal_of_silent (Act.ShowsBy.readClock.mono fun _ _ _ _ h => h.1)
  refine .recover (.silent_bind hclock fun start => .bind_silent Service.query_surfaces
    fun rows => .bind hclock fun finish => .pure) (fun fault => ?_) fun _ _ _ => rfl
  exact .journal_of_ends reportFault_shows

theorem query_surfaces {gate : Gate} {sql : String} : (query gate sql).Surfaces :=
  .silent_bind (.journal_of_ends Gate.check_shows) fun _ =>
    .bind_silent timedQuery_surfaces fun _ => accept_silent

theorem tables_surfaces : tables.Surfaces := by
  refine .bind_silent Service.tables_surfaces fun rows => .bind ?_ fun _ => .pure
  exact .journal_of_silent ((mapM_accept_shows rows).mono fun _ _ _ _ h => h.1.1)

theorem tableDetails_surfaces {schema table : String} : (tableDetails schema table).Surfaces := by
  have hwork : (do
      let rows ← Service.tableDetails schema table
      Act.note .debug Log.Channel.tableTool ("Built table details for " ++ schema ++ "." ++ table)
      accept "TableDetailsResponse" (detailsOf rows) : Service.Action TableDetails).Surfaces :=
    .bind_silent Service.tableDetails_surfaces fun _ =>
      .bind (.journal_of_ends .send) fun _ => accept_silent
  unfold tableDetails
  exact iteInduction (fun _ => .silent_bind .throw fun _ => hwork) fun _ => hwork

end Tool

namespace Server

theorem onService_surfaces {α : Type} {service : Service} {act : Service.Action α}
    (h : act.Surfaces) : (onService service act).Surfaces :=
  (onService_shows h).mono fun _ _ _ _ ⟨_, hsurfaced, _⟩ => hsurfaced

namespace Inquiry

theorem work_surfaces (inquiry : Inquiry) (service : Service) (gate : Gate) :
    (inquiry.work service gate).Surfaces := by
  cases inquiry with
  | query sql =>
    exact .bind_silent (onService_surfaces Tool.query_surfaces) fun _ =>
      .bind (.journal_of_ends .send) fun _ => written_keepsStage
  | tables =>
    exact .bind_silent (onService_surfaces Tool.tables_surfaces) fun _ => written_keepsStage
  | tableDetails schema table =>
    exact .bind_silent (onService_surfaces Tool.tableDetails_surfaces) fun _ => written_keepsStage

/-- Where one call of an inquiry on an initialised server fails, with an error of the driver, the
answer is a failure that may be tried again, with some text and with the code and the detail of that
error; and the last calls are the only rollback and the return of the connection. -/
theorem handle_surfaces (inquiry : Inquiry) {stage : Stage Server} {service : Service}
    {gate : Gate} (hservice : stage.self.service = some service)
    (hgate : stage.self.gate = some gate) {events : List Event}
    (hjournal : (inquiry.handle.start stage).2.world.journal = stage.world.journal ++ events)
    {error : DriverError} (hfails : FailsOnce error events) :
    (∃ (message : String) (document : Json), message ≠ "" ∧
      Failure.document ⟨message, true, error.code, error.detail, none⟩ = .ok document ∧
        (inquiry.handle.start stage).1 = .ok (text document)) ∧ EndsRolledBack events := by
  have hattempt : inquiry.attempt.start stage = (inquiry.work service gate).start stage := by
    rw [attempt, Act.start_bind, ensureInitialized_of_initialized hservice hgate]
  obtain ⟨calls, hcalls, hsurfaced⟩ := inquiry.work_surfaces service gate stage
  rw [journal_handle, hattempt, hcalls] at hjournal
  obtain rfl : calls = events := List.append_cancel_left hjournal
  obtain ⟨⟨message, hmessage, hresult⟩, hends⟩ := hsurfaced error hfails
  have hlegible : (Fault.service (.database message error.code error.detail)).Legible :=
    ⟨message, rfl⟩
  obtain ⟨document, hdocument⟩ := Failure.document_of_legible hlegible
  refine ⟨⟨message, document, hmessage, hdocument, ?_⟩, hends⟩
  rw [handle_result, hattempt, hresult]
  exact congrArg payloadOf hdocument

/-- A constraint that is deferred to the commit is violated. -/
def conflict : DriverError :=
  ⟨.uniqueViolation, "duplicate key value\n", some "23505", some "Key (id)=(1) exists."⟩

/-- A started server whose next commit is refused. -/
def conflictingStage : Stage Server :=
  Surroundings.enter { script := { commit := [some (.error (.driver conflict))] } } startedStage

/-- The calls of a query whose commit is refused. -/
def conflictingCalls : List Event :=
  ⟨.checkOut 0, .done⟩ ::
    (Service.finishedCursor
      [Service.readOnlyStatement, Service.timeoutText 30000, "SELECT 1"]
      [⟨.hasRows, .answered true⟩, ⟨.fetchAll, .fetched []⟩] ++
        [⟨.commit, .raised (.driver conflict)⟩, ⟨.rollback, .done⟩, ⟨.giveBack 0, .done⟩])

theorem handle_surfaces_conflict :
    (∃ (message : String) (document : Json), message ≠ "" ∧
      Failure.document ⟨message, true, some "23505", some "Key (id)=(1) exists.", none⟩ =
        .ok document ∧
      ((query "SELECT 1").handle.start conflictingStage).1 = .ok (text document)) ∧
      EndsRolledBack conflictingCalls := by
  have hstarted : ensureInitialized.start conflictingStage =
      (.ok (⟨localSettings, some 0, true⟩, gateOf localSettings), conflictingStage) := rfl
  have hjournal : ((handleQuery "SELECT 1").start conflictingStage).2.world.journal =
      conflictingStage.world.journal ++ conflictingCalls :=
    (journal_handleQuery hstarted rfl).trans rfl
  have hfails : FailsOnce conflict conflictingCalls := ⟨.commit, rfl, rfl⟩
  exact handle_surfaces (query "SELECT 1") rfl rfl hjournal hfails

end Inquiry

end Server

end QueryGate
