import QueryGate.Proofs.Database.Calls

/-!
# The calls of probes and look-ups

A probe, the list of tables and the details of a table read from the database on one cursor and
roll back. What they pass and fetch is given for each of them; what they share is that only
statements are passed, and that a fault is always explained by the calls, or by what was fetched.
-/

namespace QueryGate

open QueryGate.Text

/-- The call passes a statement to a cursor or asks for its rows. -/
def Call.isStatement : Call → Bool
  | .execute .. | .hasRows | .fetchOne | .fetchAll => true
  | _ => false

namespace Service

open Behaviour

variable {α β : Type}

/-- What can end the reading of rows early. -/
inductive Explains (events : List Event) : Fault → Prop where
  | raised {call : Call} {fault : Fault} (hmem : ⟨call, .raised fault⟩ ∈ events) :
      Explains events fault
  /-- A row is no mapping. -/
  | unreadable {rows : List Value} {fault : Fault} (hmem : ⟨.fetchAll, .fetched rows⟩ ∈ events)
      (hrows : rows.mapM Entries.ofValue = .error fault) : Explains events fault
  | missing (message : Text.RawText) (code detail : Option String) :
      Explains events (.service (.database message code detail))

theorem Explains.mono {events more : List Event} (hsub : ∀ event ∈ events, event ∈ more)
    {fault : Fault} (h : Explains events fault) : Explains more fault := by
  cases h with
  | raised hmem => exact .raised (hsub _ hmem)
  | unreadable hmem hrows => exact .unreadable (hsub _ hmem) hrows
  | missing message code detail => exact .missing message code detail

/-- Only statements are passed and rows fetched, and every fault is explained. -/
structure Reads (s : Service) (events : List Event) (r : Except Fault α) (s' : Service) : Prop where
  statements : ∀ event ∈ events, event.call.isStatement = true
  explained : ∀ fault, r = .error fault → Explains events fault
  same : s' = s

theorem Reads.append {events more : List Event} {a : α} {r : Except Fault β} {s mid s' : Service}
    (h : Reads s events (.ok a) mid) (hmore : Reads mid more r s') :
    Reads s (events ++ more) r s' where
  statements := by
    intro event hmem
    rcases List.mem_append.mp hmem with hmem | hmem
    · exact h.statements event hmem
    · exact hmore.statements event hmem
  explained := fun fault hr =>
    (hmore.explained fault hr).mono fun _ hmem => List.mem_append_right _ hmem
  same := hmore.same.trans h.same

theorem Reads.of_raised {events : List Event} {call : Call} {fault : Fault} {s : Service}
    (hstatements : ∀ event ∈ events, event.call.isStatement = true)
    (hmem : ⟨call, .raised fault⟩ ∈ events) :
    Reads s events (.error fault : Except Fault α) s where
  statements := hstatements
  explained := by
    rintro _ ⟨⟩
    exact .raised hmem
  same := rfl

theorem reads_of_calls {call : Call} {ending : α → Ending} (hcall : call.isStatement = true)
    {act : Action α} (h : act.Shows (Calls call ending)) : act.Shows Reads := by
  refine h.mono ?_
  intro s events r s' hcalls
  cases hcalls with
  | returned a => exact ⟨by simpa using hcall, by simp, rfl⟩
  | raised fault => exact .of_raised (by simpa using hcall) (List.mem_singleton_self _)

theorem reads_probe : (do
    Act.execute probeQuery
    Act.fetchOne : Action Unit).Shows Reads := by
  have hexecute : (Act.execute probeQuery : Action Unit).Shows Reads :=
    reads_of_calls rfl Act.Shows.execute
  have hfetch : (Act.fetchOne : Action Unit).Shows Reads := reads_of_calls rfl Act.Shows.perform
  refine (hexecute.bind fun _ => hfetch).mono ?_
  intro s events r s' hb
  cases hb with
  | stopped first =>
    refine ⟨first.statements, ?_, first.same⟩
    rintro _ ⟨⟩
    exact first.explained _ rfl
  | continued first next => exact first.append next

/-- A statement is passed, and its rows are fetched and read as mappings. -/
inductive Fetches (sql : String) (parameters : List String) (s : Service) :
    List Event → Except Fault (List Entries) → Service → Prop where
  | failed (fault : Fault) :
      Fetches sql parameters s [⟨.execute sql parameters, .raised fault⟩] (.error fault) s
  | unfetched (fault : Fault) :
      Fetches sql parameters s
        [⟨.execute sql parameters, .done⟩, ⟨.fetchAll, .raised fault⟩] (.error fault) s
  | fetched (rows : List Value) :
      Fetches sql parameters s
        [⟨.execute sql parameters, .done⟩, ⟨.fetchAll, .fetched rows⟩]
        (rows.mapM Entries.ofValue) s

theorem fetches_shows (sql : String) (parameters : List String) :
    (do
      Act.executeWith sql parameters
      entriesOfRows (← Act.fetchAll) : Action (List Entries)).Shows (Fetches sql parameters) := by
  have hexecute : (Act.executeWith sql parameters : Action Unit).Shows
      (Calls (.execute sql parameters) Act.finished) := .perform
  have hfetch : (Act.fetchAll : Action (List Value)).Shows (Calls .fetchAll .fetched) := .perform
  refine (hexecute.bind fun _ => hfetch.bind fun rows => Act.Shows.ofExcept).mono ?_
  intro s events r s' hb
  cases hb with
  | stopped executed => cases executed; exact .failed _
  | continued executed next =>
    cases executed
    cases next with
    | stopped fetch => cases fetch; exact .unfetched _
    | continued fetch next =>
      cases fetch
      obtain ⟨rfl, rfl, rfl⟩ := next
      exact .fetched _

theorem Fetches.reads {sql : String} {parameters : List String} {s s' : Service}
    {events : List Event} {r : Except Fault (List Entries)}
    (h : Fetches sql parameters s events r s') : Reads s events r s' := by
  cases h with
  | failed fault => exact .of_raised (by simp [Call.isStatement]) (List.mem_singleton_self _)
  | unfetched fault =>
    have hmem : Event.mk .fetchAll (.raised fault) ∈
        [Event.mk (.execute sql parameters) .done, ⟨.fetchAll, .raised fault⟩] := by simp
    exact .of_raised (by simp [Call.isStatement]) hmem
  | fetched rows =>
    exact ⟨by simp [Call.isStatement], fun fault hr => .unreadable (by simp) hr, rfl⟩

/-- Mappings were read only from rows that were fetched, as many as there are rows. -/
theorem Fetches.eq_of_ok {sql : String} {parameters : List String} {entries : List Entries}
    {r : Except Fault (List Entries)} (h : Fetches sql parameters s events r s')
    (hr : r = .ok entries) :
    ∃ rows, rows.mapM Entries.ofValue = .ok entries ∧
      events = [⟨.execute sql parameters, .done⟩, ⟨.fetchAll, .fetched rows⟩] := by
  cases h with
  | failed fault => cases hr
  | unfetched fault => cases hr
  | fetched rows => exact ⟨rows, hr, rfl⟩

/-- The columns of a table are read first, and sample rows only if there are columns. -/
inductive ReadsTable (schema table sampleQuery : String) (s : Service) :
    List Event → Except Fault (List Entries × List Entries) → Service → Prop where
  | unread {events : List Event} {fault : Fault} {s' : Service}
      (columns : Fetches columnsQuery [schema, table] s events (.error fault) s') :
      ReadsTable schema table sampleQuery s events (.error fault) s'
  | missing {events : List Event} {s' : Service}
      (columns : Fetches columnsQuery [schema, table] s events (.ok []) s') :
      ReadsTable schema table sampleQuery s events (.error (tableMissing schema table)) s'
  | sampled {events more : List Event} {columns : List Entries} {r : Except Fault (List Entries)}
      {mid s' : Service}
      (first : Fetches columnsQuery [schema, table] s events (.ok columns) mid)
      (hcolumns : columns ≠ []) (next : Fetches sampleQuery [] mid more r s') :
      ReadsTable schema table sampleQuery s (events ++ more)
        (r.map fun sampleRows => (columns, sampleRows)) s'

theorem readTable_shows (schema table sampleQuery : String) :
    (readTable schema table sampleQuery).Shows (ReadsTable schema table sampleQuery) := by
  have hsample (columns : List Entries) : (do
      Act.execute sampleQuery
      return (columns, ← entriesOfRows (← Act.fetchAll)) :
        Action (List Entries × List Entries)).Shows
        (Then (Fetches sampleQuery []) fun rows => ends (.ok (columns, rows))) := by
    have hrows := (fetches_shows sampleQuery []).bind fun rows =>
      (Act.Shows.pure : (pure (columns, rows) : Action (List Entries × List Entries)).Shows _)
    simp only [bind_assoc] at hrows
    exact hrows
  have hrest (columns : List Entries) : (do
      if columns.isEmpty then throw (tableMissing schema table)
      Act.execute sampleQuery
      return (columns, ← entriesOfRows (← Act.fetchAll)) :
        Action (List Entries × List Entries)).Shows
        (if columns = [] then ends (.error (tableMissing schema table))
          else Then (Fetches sampleQuery []) fun rows => ends (.ok (columns, rows))) := by
    cases columns with
    | nil => exact .throw_bind
    | cons column columns => exact hsample (column :: columns)
  have hread := (fetches_shows columnsQuery [schema, table]).bind hrest
  simp only [bind_assoc] at hread
  refine hread.mono ?_
  intro s events r s' hb
  cases hb with
  | stopped first => exact .unread first
  | @continued events more columns _ _ _ first next =>
    by_cases hcolumns : columns = []
    · rw [if_pos hcolumns] at next
      obtain ⟨rfl, rfl, rfl⟩ := next
      rw [List.append_nil]
      exact .missing (hcolumns ▸ first)
    · rw [if_neg hcolumns] at next
      cases next with
      | stopped fetched => exact .sampled first hcolumns fetched
      | continued fetched next =>
        obtain ⟨rfl, rfl, rfl⟩ := next
        rw [List.append_nil]
        exact .sampled first hcolumns fetched

theorem ReadsTable.reads {schema table sampleQuery : String} {s s' : Service}
    {events : List Event} {r : Except Fault (List Entries × List Entries)}
    (h : ReadsTable schema table sampleQuery s events r s') : Reads s events r s' := by
  cases h with
  | unread columns =>
    have hreads := columns.reads
    refine ⟨hreads.statements, ?_, hreads.same⟩
    rintro _ ⟨⟩
    exact hreads.explained _ rfl
  | missing columns =>
    refine ⟨columns.reads.statements, ?_, columns.reads.same⟩
    rintro _ ⟨⟩
    exact .missing _ _ _
  | @sampled _ _ _ r _ _ first hcolumns next =>
    have hreads := first.reads.append next.reads
    refine ⟨hreads.statements, fun fault hr => hreads.explained fault ?_, hreads.same⟩
    cases r with
    | ok rows => cases hr
    | error fault => cases hr; rfl

/-- Something is read on a cursor, and the transaction is rolled back. -/
inductive Looks (named : Bool) (b : Behaviour Service α) (s : Service) :
    List Event → Except Fault α → Service → Prop where
  | stopped {events : List Event} {fault : Fault} {s' : Service}
      (run : UsesCursor named b s events (.error fault) s') :
      Looks named b s events (.error fault) s'
  | unfinished {events : List Event} {a : α} {s' : Service}
      (run : UsesCursor named b s events (.ok a) s') (fault : Fault) :
      Looks named b s (events ++ [⟨.rollback, .raised fault⟩]) (.error fault) s'
  | looked {events : List Event} {a : α} {s' : Service}
      (run : UsesCursor named b s events (.ok a) s') :
      Looks named b s (events ++ [⟨.rollback, .done⟩]) (.ok a) s'

theorem looks_shows (named : Bool) {act : Action α} {b : Behaviour Service α} (h : act.Shows b) :
    (do
      let a ← withCursor named act
      Act.rollback
      return a : Action α).Shows (Looks named b) := by
  have hrollback : (Act.rollback : Action Unit).Shows (Calls .rollback Act.finished) := .perform
  refine ((withCursor_shows h).bind fun a => hrollback.bind fun _ => Act.Shows.pure).mono ?_
  intro s events r s' hb
  cases hb with
  | stopped run => exact .stopped run
  | continued run next =>
    cases next with
    | stopped rollback => cases rollback; exact .unfinished run _
    | continued rollback next =>
      cases rollback
      obtain ⟨rfl, rfl, rfl⟩ := next
      exact .looked run

/-- What holds of the calls on the cursor, and of calls with a rollback behind them, holds of the
calls of a look-up. -/
theorem Looks.calls_have {named : Bool} {b : Behaviour Service α} {s s' : Service}
    {events : List Event} {r : Except Fault α} {P : List Event → Prop}
    (h : Looks named b s events r s')
    (hcursor : ∀ events r, UsesCursor named b s events r s' → P events)
    (hrollback : ∀ events ending, P events → P (events ++ [⟨.rollback, ending⟩])) : P events := by
  cases h with
  | stopped run => exact hcursor _ _ run
  | unfinished run fault => exact hrollback _ _ (hcursor _ _ run)
  | looked run => exact hrollback _ _ (hcursor _ _ run)

/-- The report of a fault of a probe, if it means that the database was not reached. -/
def probeReport : Fault → Option Fault
  | .driver error => some (.service (.database "Failed to connect to database" error.code
      (some (trimmed error.message))))
  | .service (.connection message) =>
      some (.service (.database "Failed to connect to database" none (some message)))
  | _ => none

/-- A probe notes whether the database was reached, unless it does not report its fault. -/
inductive Probes (s : Service) : List Event → Except Fault Unit → Service → Prop where
  | reached {events : List Event} {s' : Service}
      (run : Connects (Looks false Reads) s events (.ok ()) s') :
      Probes s events (.ok ()) { s' with connected := true }
  | unreached {events : List Event} {fault reported : Fault} {s' : Service}
      (run : Connects (Looks (α := Unit) false Reads) s events (.error fault) s')
      (hreport : probeReport fault = some reported) :
      Probes s events (.error reported) { s' with connected := false }
  | passed {events : List Event} {fault : Fault} {s' : Service}
      (run : Connects (Looks (α := Unit) false Reads) s events (.error fault) s')
      (hreport : probeReport fault = none) : Probes s events (.error fault) s'

/-- What the handler of a probe shows of a fault. -/
private def missing (fault : Fault) : Behaviour Service Unit :=
  match probeReport fault with
  | none => ends (.error fault)
  | some reported => fun s events r s' =>
      events = [] ∧ r = .error reported ∧ s' = { s with connected := false }

private theorem unreachable_shows {code detail : Option String} :
    (unreachable code detail : Action Unit).Shows fun s events r s' =>
      events = [] ∧ r = .error (.service (.database "Failed to connect to database" code detail)) ∧
        s' = { s with connected := false } := by
  refine (Act.Shows.update.bind fun _ => Act.Shows.throw).mono ?_
  intro s events r s' hb
  cases hb with
  | stopped update => cases update.2.1
  | continued update next =>
    obtain ⟨rfl, -, rfl⟩ := update
    obtain ⟨rfl, rfl, rfl⟩ := next
    exact ⟨rfl, rfl, rfl⟩

theorem probe_shows : probe.Shows Probes := by
  have hlook : (do
      withCursor false do
        Act.execute probeQuery
        Act.fetchOne
      Act.rollback : Action Unit).Shows (Looks false Reads) := by
    have hlooks := looks_shows false reads_probe
    simpa only [bind_pure_unit] using hlooks
  have hhandle (fault : Fault) : (match fault with
      | .driver error => unreachable error.code (some (trimmed error.message))
      | .service (.connection message) => unreachable none (some message)
      | fault => throw fault : Action Unit).Shows (missing fault) := by
    cases fault with
    | driver error => exact unreachable_shows
    | service error => cases error with
      | connection message => exact unreachable_shows
      | _ => exact .throw
    | _ => exact .throw
  refine (((withConnection_shows hlook).recover hhandle).bind fun _ =>
    Act.Shows.update.bind fun _ => log_shows).mono ?_
  intro s events r s' hb
  -- A handled fault ends the probe, so that the update behind it only follows a returned look-up.
  cases hb with
  | stopped first =>
    cases first with
    | @handled events more fault _ mid _ run next =>
      rw [missing] at next
      cases hreport : probeReport fault with
      | none =>
        rw [hreport] at next
        obtain ⟨rfl, hfault, rfl⟩ := next
        cases hfault
        simpa using Probes.passed run hreport
      | some reported =>
        rw [hreport] at next
        obtain ⟨rfl, hfault, rfl⟩ := next
        cases hfault
        simpa using Probes.unreached run hreport
  | continued first next =>
    cases first with
    | passed run =>
      cases next with
      | stopped update => cases update.2.1
      | continued update next =>
        obtain ⟨rfl, -, rfl⟩ := update
        obtain ⟨rfl, rfl, rfl⟩ := next
        simpa using Probes.reached run
    | @handled events more fault _ mid _ run next =>
      rw [missing] at next
      cases hreport : probeReport fault with
      | none => rw [hreport] at next; cases next.2.1
      | some reported => rw [hreport] at next; cases next.2.1

def tablesReport : Fault → Option Fault
  | .driver error => some (.service (.database "Failed to retrieve table list" error.code
      error.detail))
  | _ => none

theorem tables_shows :
    tables.Shows (Connects (Reverts tablesReport (Looks true (Fetches tablesQuery [])))) := by
  have hhandle (fault : Fault) : (match fault with
      | .driver error => do
          Act.rollback
          log .error ("Failed to retrieve tables: " ++ error.message)
          throw (.service (.database "Failed to retrieve table list" error.code error.detail))
      | fault => throw fault : Action (List Entries)).Shows (reverting tablesReport fault) := by
    cases fault with
    | driver error => exact .bind .perform fun _ => .bind_ends log_shows .throw
    | _ => exact .throw
  have hwork := ((looks_shows true (fetches_shows tablesQuery [])).recover hhandle).mono
    fun _ _ _ _ => reverts_of_handles
  have hend (rows : List Entries) : (do
      logWith .debug "Retrieved table list" [("count", .int rows.length)]
      return rows : Action (List Entries)).Shows (ends (.ok rows)) :=
    .bind_ends logWith_shows .pure
  refine ((withConnection_shows hwork).bind hend).mono ?_
  intro s events r s' hb
  cases hb with
  | stopped run => exact run
  | continued run next =>
    obtain ⟨rfl, rfl, rfl⟩ := next
    simpa using run

/-- The report of a fault of the details. A table that was not found is rolled back, too. -/
def detailsReport (schema table : String) : Fault → Option Fault
  | .service (.database message code detail) => some (.service (.database message code detail))
  | .driver error => some (.service (detailsError schema table error))
  | _ => none

/-- Names that are empty or cannot be quoted are refused without a call. -/
inductive Describes (schema table : String) (s : Service) :
    List Event → Except Fault TableRows → Service → Prop where
  | unnamed (hname : schema = "" ∨ table = "") (message : RawText) :
      Describes schema table s [] (.error (.service (.database message none none))) s
  | unquotable {failure : Sql.UnsafeIdentifier}
      (hquery : Sql.sampleRowsQuery schema table Sql.sampleRowLimit = .error failure) :
      Describes schema table s [] (.error (Fault.ofUnsafeIdentifier failure)) s
  | looked (hschema : schema ≠ "") (htable : table ≠ "") {sampleQuery : String}
      (hquery : Sql.sampleRowsQuery schema table Sql.sampleRowLimit = .ok sampleQuery)
      {events : List Event} {r : Except Fault (List Entries × List Entries)} {s' : Service}
      (run : Connects (Reverts (detailsReport schema table)
        (Looks true (ReadsTable schema table sampleQuery))) s events r s') :
      Describes schema table s events
        (r.map fun (columns, sampleRows) => ⟨schema, table, columns, sampleRows⟩) s'

theorem tableDetails_shows {schema table : String} :
    (tableDetails schema table).Shows (Describes schema table) := by
  have hhandle (fault : Fault) : (match fault with
      | .service (.database message code detail) => do
          Act.rollback
          throw (.service (.database message code detail))
      | .driver error => do
          Act.rollback
          log .error
            ("Failed to get details for " ++ schema ++ "." ++ table ++ ": " ++ error.message)
          throw (.service (detailsError schema table error))
      | fault => throw fault : Action (List Entries × List Entries)).Shows
        (reverting (detailsReport schema table) fault) := by
    cases fault with
    | driver error => exact .bind .perform fun _ => .bind_ends log_shows .throw
    | service error => cases error with
      | database message code detail => exact .bind .perform fun _ => .throw
      | _ => exact .throw
    | _ => exact .throw
  have hwork (sampleQuery : String) :=
    ((looks_shows true (readTable_shows schema table sampleQuery)).recover hhandle).mono
      fun _ _ _ _ => reverts_of_handles
  have hend (found : List Entries × List Entries) : (match found with
      | (columns, sampleRows) => do
          logWith .debug "Retrieved table details"
            [("schema", .text schema), ("table", .text table),
             ("column_count", .int columns.length), ("sample_row_count", .int sampleRows.length)]
          return ⟨schema, table, columns, sampleRows⟩ : Action TableRows).Shows
        (ends (.ok ⟨schema, table, found.1, found.2⟩)) :=
    .bind_ends logWith_shows .pure
  unfold tableDetails
  by_cases hname : schema = "" ∨ table = ""
  · have hempty : (schema.isEmpty || table.isEmpty) = true := by simpa using hname
    rw [if_pos hempty]
    refine Act.Shows.throw_bind.mono ?_
    rintro s events r s' ⟨rfl, rfl, rfl⟩
    exact .unnamed hname _
  · have hempty : ¬ (schema.isEmpty || table.isEmpty) = true := by simpa using hname
    obtain ⟨hschema, htable⟩ := not_or.mp hname
    rw [if_neg hempty]
    cases hquery : Sql.sampleRowsQuery schema table Sql.sampleRowLimit with
    | error failure =>
      refine Act.Shows.throw_bind.mono ?_
      rintro s events r s' ⟨rfl, rfl, rfl⟩
      exact .unquotable hquery
    | ok sampleQuery =>
      refine .bind_ends .pure (((withConnection_shows (hwork sampleQuery)).bind hend).mono ?_)
      intro s events r s' hb
      cases hb with
      | stopped run => exact .looked hschema htable hquery run
      | continued run next =>
        obtain ⟨rfl, rfl, rfl⟩ := next
        rw [List.append_nil]
        exact .looked hschema htable hquery run

end Service

end QueryGate
