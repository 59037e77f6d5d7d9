import QueryGate.Payload.Record
import QueryGate.Proofs.Database.Attempt
import QueryGate.Proofs.Database.Lookups
import QueryGate.Proofs.Tool.Query
import QueryGate.Proofs.Validation.Reporting
import QueryGate.Tool

/-!
# The results of the tools

The rows of a query are accepted as they are, and so is their number. Only the time is checked: a
result whose time is no number or below zero is invalid. On a clock that does not step back the
time is always accepted. The payload of a result is never that of a failure.

What the table tools return comes from the rows that were fetched. The list of tables holds one
name for each row, in order, and says how many they are. The details of a table are those of the
table that was asked for; they hold one column for each row of the first query, and the rows of
the second query as they are.
-/

namespace QueryGate.Tool

open QueryGate.Number QueryGate.Payload QueryGate.Validation

theorem integerFrom_zero_length {α : Type} (as : List α) :
    integerFrom 0 none (.int as.length) = .ok (as.length : Int) := by
  have hlength : ¬ ((as.length : Nat) : Int) < 0 := by omega
  simp [integerFrom, integer, hlength, bind, Except.bind]

section

variable {rows : List Entries} {milliseconds : Double}

/-- Of a result only the time may be refused. -/
theorem queryResult_eq : queryResult rows milliseconds =
    ((nonnegativeFloat.check (.float (milliseconds.roundTo 2))).under
      (.field "execution_time_ms")).map fun time => ⟨rows, rows.length, time⟩ := by
  have hrows : listOf anyObject (.list (rows.map Value.object)) = .valid rows :=
    checkItems_anyObject rows 0
  have hcount : (integerFrom 0 none).check (.int rows.length) = .valid (rows.length : Int) := by
    rw [Rule.check, integerFrom_zero_length]
  let entries : Entries := [("rows", .list (rows.map .object)), ("row_count", .int rows.length),
    ("execution_time_ms", .float (milliseconds.roundTo 2))]
  have hfirst : required "rows" (listOf anyObject) entries = .valid rows := by
    change (listOf anyObject (.list (rows.map Value.object))).under (.field "rows") = _
    rw [hrows]
    rfl
  have hsecond : required "row_count" (integerFrom 0 none).check entries =
      .valid (rows.length : Int) := by
    change ((integerFrom 0 none).check (.int rows.length)).under (.field "row_count") = _
    rw [hcount]
    rfl
  change QueryResult.mk <$> required "rows" (listOf anyObject) entries
    <*> required "row_count" (integerFrom 0 none).check entries
    <*> required "execution_time_ms" nonnegativeFloat.check entries = _
  rw [hfirst, hsecond]
  change Checked.seq (.valid _)
    ((nonnegativeFloat.check (.float (milliseconds.roundTo 2))).under
      (.field "execution_time_ms")) = _
  cases (nonnegativeFloat.check (.float (milliseconds.roundTo 2))).under
    (.field "execution_time_ms") <;> rfl

theorem answer_of_atLeastZero (h : (milliseconds.roundTo 2).AtLeastZero) :
    answer rows milliseconds = .ok ⟨rows, rows.length, milliseconds.roundTo 2⟩ := by
  rw [answer, queryResult_eq, Rule.check, nonnegativeFloat_of_atLeastZero h]
  rfl

theorem answer_of_not_atLeastZero (h : ¬ (milliseconds.roundTo 2).AtLeastZero) :
    ∃ data, answer rows milliseconds = .error (.invalidData data) := by
  rw [answer, queryResult_eq, Rule.check, nonnegativeFloat_of_not_atLeastZero h]
  exact ⟨_, rfl⟩

theorem answer_eq_ok {result : QueryResult} (h : answer rows milliseconds = .ok result) :
    result.rows = rows ∧ result.rowCount = rows.length := by
  by_cases hle : (milliseconds.roundTo 2).AtLeastZero
  · rw [answer_of_atLeastZero hle] at h
    obtain rfl := Except.ok.inj h
    exact ⟨rfl, rfl⟩
  · obtain ⟨data, hdata⟩ := answer_of_not_atLeastZero hle
    rw [hdata] at h
    cases h

end

theorem atLeastZero_elapsed {start finish : Double} (hstart : start.isFinite = true)
    (hfinish : finish.isFinite = true) (h : start.signedUnits ≤ finish.signedUnits) :
    ((Service.elapsedMillis start finish).roundTo 2).AtLeastZero :=
  ((Double.atLeastZero_sub hfinish hstart h).scale 1000).roundTo 2

theorem take_text_failure {failure : Failure} {document : Json}
    (h : failure.document = .ok document) :
    (Payload.text document).toList.take 6 = ['\x7b', '\n', ' ', ' ', '"', 'e'] := by
  rw [Failure.document] at h
  cases herror : failure.error.encoded with
  | error fault =>
    rw [herror] at h
    cases h
  | ok message =>
    rw [herror] at h
    cases h
    rw [Payload.text, Json.Style.text, String.toList_ofList]
    rfl

theorem take_text_result {result : QueryResult} {document : Json}
    (h : result.document = .ok document) :
    (Payload.text document).toList.take 6 = ['\x7b', '\n', ' ', ' ', '"', 'r'] := by
  rw [QueryResult.document] at h
  cases hrows : rowsDocument result.rows with
  | error failure =>
    rw [hrows] at h
    cases h
  | ok rows =>
    rw [hrows] at h
    cases h
    rw [Payload.text, Json.Style.text, String.toList_ofList]
    rfl

/-- Results and failures start with different fields. -/
theorem text_result_ne_failure {result : QueryResult} {document : Json}
    (h : result.document = .ok document) {failure : Failure} {contents : Json}
    (hfailure : failure.document = .ok contents) :
    Payload.text document ≠ Payload.text contents := by
  intro hsame
  have htake := take_text_result h
  rw [hsame, take_text_failure hfailure] at htake
  simp at htake

end QueryGate.Tool

namespace QueryGate

open QueryGate.Payload QueryGate.Validation Behaviour

namespace Service

variable {α : Type} {s s' : Service} {events : List Event}

theorem Fetches.fetchedRows_of_ok {sql : String} {parameters : List String}
    {r : Except Fault (List Entries)} {entries : List Entries}
    (h : Fetches sql parameters s events r s') (hr : r = .ok entries) :
    (fetchedRows events).mapM Entries.ofValue = .ok entries := by
  obtain ⟨rows, hrows, rfl⟩ := h.eq_of_ok hr
  simpa [fetchedRows, Event.fetched] using hrows

/-- The rows of a table are its columns and then its sample rows. -/
theorem ReadsTable.fetchedRows_of_ok {schema table sampleQuery : String}
    {r : Except Fault (List Entries × List Entries)} {columns sampleRows : List Entries}
    (h : ReadsTable schema table sampleQuery s events r s') (hr : r = .ok (columns, sampleRows)) :
    (fetchedRows events).mapM Entries.ofValue = .ok (columns ++ sampleRows) := by
  cases h with
  | unread _ => cases hr
  | missing _ => cases hr
  | @sampled _ _ _ fetched _ _ first hcolumns next =>
    cases fetched with
    | error fault => cases hr
    | ok rows =>
      cases hr
      rw [fetchedRows_append, List.mapM_append, first.fetchedRows_of_ok rfl,
        next.fetchedRows_of_ok rfl]
      rfl

/-- A look-up that returns fetches nothing but what is read on its cursor. -/
theorem Connects.looked {report : Fault → Option Fault} {b : Behaviour Service α}
    {r : Except Fault α} {a : α} (h : Connects (Reverts report (Looks true b)) s events r s')
    (hr : r = .ok a) :
    ∃ inner, b s inner (.ok a) s' ∧ fetchedRows events = fetchedRows inner := by
  subst hr
  cases h with
  | used hpool run =>
    cases run with
    | settled run _ =>
      cases run with
      | looked run =>
        cases run with
        | @used inner _ _ run => exact ⟨inner, run, by simp [fetchedRows, Event.fetched]⟩

end Service

namespace Tool

variable {σ α : Type}

theorem accept_shows {record : String} {checked : Checked α} :
    (accept record checked : Act σ α).Shows fun s events r s' =>
      (events = [] ∧ s' = s) ∧ ∀ value, r = .ok value → checked = .valid value := by
  unfold accept
  cases checked with
  | valid value =>
    refine Act.Shows.pure.mono ?_
    rintro s events r s' ⟨rfl, rfl, rfl⟩
    exact ⟨⟨rfl, rfl⟩, fun _ h => congrArg Checked.valid (Except.ok.inj h)⟩
  | invalid violations =>
    refine Act.Shows.throw.mono ?_
    rintro s events r s' ⟨rfl, rfl, rfl⟩
    exact ⟨⟨rfl, rfl⟩, by rintro _ ⟨⟩⟩

theorem mapM_accept_shows {record : String} {check : Entries → Checked α} (rows : List Entries) :
    (rows.mapM fun row => accept record (check row) : Act σ (List α)).Shows fun s events r s' =>
      (events = [] ∧ s' = s) ∧
        ∀ values, r = .ok values →
          List.Forall₂ (fun row a => check row = .valid a) rows values := by
  induction rows with
  | nil =>
    refine Act.Shows.pure.mono ?_
    rintro s events r s' ⟨rfl, rfl, rfl⟩
    refine ⟨⟨rfl, rfl⟩, ?_⟩
    rintro _ ⟨⟩
    exact .nil
  | cons row rows ih =>
    rw [List.mapM_cons]
    refine (accept_shows.bind fun _ => ih.bind fun _ => Act.Shows.pure).mono ?_
    intro s events r s' hb
    cases hb with
    | stopped first => exact ⟨first.1, by rintro _ ⟨⟩⟩
    | continued first next =>
      obtain ⟨⟨rfl, rfl⟩, hrow⟩ := first
      cases next with
      | stopped rest => exact ⟨rest.1, by rintro _ ⟨⟩⟩
      | continued rest next =>
        obtain ⟨⟨rfl, rfl⟩, hrest⟩ := rest
        obtain ⟨rfl, rfl, rfl⟩ := next
        refine ⟨⟨rfl, rfl⟩, ?_⟩
        rintro _ ⟨⟩
        exact .cons (hrow _ rfl) (hrest _ rfl)

/-- The list has a name for each of the fetched rows, in order, and their number. -/
structure Lists (events : List Event) (list : TableList) : Prop where
  count : list.count = list.tables.length
  tables : ∃ rows, (fetchedRows events).mapM Entries.ofValue = .ok rows ∧
    List.Forall₂ (fun row name => TableName.check row = .valid name) rows list.tables

theorem tables_shows :
    tables.Shows fun _ events r _ => ∀ list, r = .ok list → Lists events list := by
  refine (Service.tables_shows.bind fun rows => (mapM_accept_shows rows).bind fun _ =>
    Act.Shows.pure).mono ?_
  intro s events r s' hb
  cases hb with
  | stopped first => rintro _ ⟨⟩
  | continued first next =>
    cases next with
    | stopped names => rintro _ ⟨⟩
    | continued names next =>
      obtain ⟨⟨rfl, rfl⟩, hnames⟩ := names
      obtain ⟨rfl, rfl, rfl⟩ := next
      obtain ⟨inner, fetches, hfetched⟩ := first.looked rfl
      have hrows := fetches.fetchedRows_of_ok rfl
      rw [← hfetched] at hrows
      rintro _ ⟨⟩
      exact ⟨rfl, _, by simpa using hrows, hnames _ rfl⟩

/-- The layout that is accepted has the given names, and a column for each row. -/
theorem layout_eq_valid {schema table : String} {rows : List Entries} {layout : TableLayout}
    (h : TableLayout.check [("schema", .text schema), ("table", .text table),
      ("columns", .list (rows.map .object))] = .valid layout) :
    layout.schema = schema ∧ layout.table = table ∧
      List.Forall₂ (fun row column => Column.check row = .valid column) rows layout.columns := by
  change Checked.seq (.valid (TableLayout.mk schema table))
    ((listOf (recordOf "ColumnInfo" Column.check) (.list (rows.map .object))).under
      (.field "columns")) = .valid layout at h
  simp only [Checked.seq_eq_valid, Checked.under_eq_valid, Checked.valid.injEq] at h
  obtain ⟨_, columns, rfl, hcolumns, rfl⟩ := h
  exact ⟨rfl, rfl, listOf_recordOf_eq_valid hcolumns⟩

theorem detailsOf_eq_valid {rows : Service.TableRows} {details : TableDetails}
    (h : detailsOf rows = .valid details) :
    details.layout.schema = rows.schema ∧ details.layout.table = rows.table ∧
      List.Forall₂ (fun row column => Column.check row = .valid column) rows.columns
        details.layout.columns ∧
      details.sampleRows = rows.sampleRows := by
  have hrows : listOf anyObject (.list (rows.sampleRows.map .object)) = .valid rows.sampleRows :=
    checkItems_anyObject rows.sampleRows 0
  change Checked.seq (.map TableDetails.mk ((TableLayout.check
      [("schema", .text rows.schema), ("table", .text rows.table),
        ("columns", .list (rows.columns.map .object))]).under (.field "schema")))
    ((listOf anyObject (.list (rows.sampleRows.map .object))).under (.field "sample_rows")) =
      .valid details at h
  simp only [hrows, Checked.seq_eq_valid, Checked.map_eq_valid, Checked.under_eq_valid,
    Checked.valid.injEq] at h
  obtain ⟨_, _, ⟨layout, hlayout, rfl⟩, rfl, rfl⟩ := h
  obtain ⟨hschema, htable, hcolumns⟩ := layout_eq_valid hlayout
  exact ⟨hschema, htable, hcolumns, rfl⟩

/-- The details are those of the given table, with a column for each of the first rows that were
fetched, and with the other rows as they are. -/
structure Details (schema table : String) (events : List Event) (details : TableDetails) :
    Prop where
  schema : details.layout.schema = schema
  table : details.layout.table = table
  rows : ∃ columns,
    (fetchedRows events).mapM Entries.ofValue = .ok (columns ++ details.sampleRows) ∧
      List.Forall₂ (fun row column => Column.check row = .valid column) columns
        details.layout.columns

theorem details_of_describes {schema table : String} {s s' : Service} {events : List Event}
    {r : Except Fault Service.TableRows} {rows : Service.TableRows} {details : TableDetails}
    (h : Service.Describes schema table s events r s') (hr : r = .ok rows)
    (hchecked : detailsOf rows = .valid details) : Details schema table events details := by
  obtain ⟨hschema, htable, hcolumns, hsample⟩ := detailsOf_eq_valid hchecked
  cases h with
  | unnamed hname message => cases hr
  | unquotable hquery => cases hr
  | @looked _ _ _ _ _ found _ run =>
    cases found with
    | error fault => cases hr
    | ok found =>
      obtain ⟨columns, sampleRows⟩ := found
      cases hr
      obtain ⟨inner, reads, hfetched⟩ := run.looked rfl
      have hrows := reads.fetchedRows_of_ok rfl
      refine ⟨hschema, htable, columns, ?_, hcolumns⟩
      rw [hfetched, hsample]
      exact hrows

theorem tableDetails_shows {schema table : String} :
    (tableDetails schema table).Shows fun _ events r _ =>
      ∀ details, r = .ok details → Details schema table events details := by
  unfold tableDetails
  by_cases hname : (schema.isEmpty || table.isEmpty) = true
  · rw [if_pos hname]
    refine Act.Shows.throw_bind.mono ?_
    rintro s events r s' ⟨rfl, rfl, rfl⟩
    rintro _ ⟨⟩
  · rw [if_neg hname]
    refine (Service.tableDetails_shows.bind fun rows =>
      Act.Shows.send.bind_ends accept_shows).mono ?_
    intro s events r s' hb
    cases hb with
    | stopped first => rintro _ ⟨⟩
    | continued first next =>
      obtain ⟨⟨rfl, rfl⟩, hchecked⟩ := next
      rw [List.append_nil]
      exact fun details hdetails => details_of_describes first rfl (hchecked details hdetails)

end Tool

end QueryGate
