import QueryGate.Payload.Record
import QueryGate.Proofs.Payload.Plain
import QueryGate.Proofs.Validation.Reporting

/-!
# Payloads are read back

The text of an accepted response is read as a document from which the check of its kind makes the
response again, if the values of its rows are plain, none of them is nested deeper than payloads
allow, and no integer has more digits than are read. A response with a row that is nested deeper
has no text, and the text of one with a longer integer is not read.

That a finite float is read back from its text is not shown here. It is a premise for each float
of the response, which is part of what makes its documents readable. The texts of an accepted
response have no stray bytes.
-/

namespace QueryGate.Payload

open QueryGate.Number QueryGate.Validation QueryGate.Validation.Checked
open Json (Readable)

theorem integerFrom_check {least n : Int} (h : least ≤ n) :
    (integerFrom least none).check (.int n) = .valid n :=
  check_eq_valid_iff.mpr (integerFrom_eq_ok_iff.mpr ⟨rfl, h, nofun⟩)

/-- The document stands for a value that is accepted. -/
def Accepts {α : Type} (check : Check α) (document : Json) (a : α) : Prop :=
  ∃ value, Value.ofJson? document = some value ∧ check value = .valid a

theorem accepts_ofText? (s : Option String) :
    Accepts (orNull Validation.text).check (.ofText? s) s := by
  cases s <;> exact ⟨_, rfl, rfl⟩

theorem accepts_ofInt? {least : Int} {n : Option Int} (h : ∀ m ∈ n, least ≤ m) :
    Accepts (orNull (integerFrom least none)).check (.ofInt? n) n := by
  cases n with
  | none => exact ⟨_, rfl, rfl⟩
  | some n =>
    have hn : integerFrom least none (.int n) = .ok n :=
      integerFrom_eq_ok_iff.mpr ⟨rfl, h n rfl, nofun⟩
    exact ⟨_, rfl, check_eq_valid_iff.mpr (congrArg (Except.map some) hn)⟩

theorem accepts_tableName (name : TableName) :
    Accepts (recordOf "TableInfo" TableName.check) name.document name := ⟨_, rfl, rfl⟩

theorem accepts_column (column : Column) :
    Accepts (recordOf "ColumnInfo" Column.check) column.document column := by
  obtain ⟨name, dataType, nullable, default⟩ := column
  cases default <;> exact ⟨_, rfl, rfl⟩

theorem accepts_list {α : Type} {check : Check α} {document : α → Json}
    (h : ∀ a, Accepts check (document a) a) (records : List α) :
    Accepts (listOf check) (.list (records.map document)) records := by
  choose value hvalue hcheck using h
  have hvalues : Value.listOfJson? (records.map document) = some (records.map value) := by
    induction records with
    | nil => rfl
    | cons record records ih =>
      exact Value.listOfJson?_cons.mpr ⟨_, _, hvalue record, ih, rfl⟩
  exact ⟨_, Value.ofJson?_list.mpr ⟨_, hvalues, rfl⟩, checkItems_map (fun a _ => hcheck a) 0⟩

/-- The documents under two keys stand for the values under them. -/
theorem ofJson?_pair {first second : String} {document other : Json} {value item : Value}
    (hdocument : Value.ofJson? document = some value) (hother : Value.ofJson? other = some item) :
    Value.ofJson? (.object [(first, document), (second, other)]) =
      some (.object [(first, value), (second, item)]) := by
  refine Value.ofJson?_object.mpr ⟨_, ?_, rfl⟩
  exact Entries.ofJson?_cons.mpr ⟨_, _, hdocument,
    Entries.ofJson?_cons.mpr ⟨_, _, hother, rfl, rfl⟩, rfl⟩

theorem accepts_tableList {list : TableList} (h : 0 ≤ list.count) :
    Accepts (recordOf "TablesResponse" TableList.check) list.document list := by
  obtain ⟨tables, htables, hcheck⟩ := accepts_list accepts_tableName list.tables
  exact ⟨_, ofJson?_pair rfl htables,
    valid_seq (valid_map TableList.mk (required_eq_valid rfl (integerFrom_check h)))
      (required_eq_valid rfl hcheck)⟩

theorem accepts_tableLayout (layout : TableLayout) :
    Accepts (recordOf "TableSchema" TableLayout.check) layout.document layout := by
  obtain ⟨columns, hcolumns, hcheck⟩ := accepts_list accepts_column layout.columns
  refine ⟨.object [("schema", .text layout.schema), ("table", .text layout.table),
    ("columns", columns)], ?_, ?_⟩
  · refine Value.ofJson?_object.mpr ⟨_, ?_, rfl⟩
    exact Entries.ofJson?_cons.mpr ⟨_, _, rfl, Entries.ofJson?_cons.mpr ⟨_, _, rfl,
      Entries.ofJson?_cons.mpr ⟨_, _, hcolumns, rfl, rfl⟩, rfl⟩, rfl⟩
  · exact valid_seq (valid_seq (valid_map TableLayout.mk (required_eq_valid rfl rfl))
      (required_eq_valid rfl rfl)) (required_eq_valid rfl hcheck)

theorem accepts_failure {message : String} {recoverable : Bool} {code detail : Option String}
    {position : Option Int} (h : ∀ n ∈ position, 1 ≤ n) :
    Accepts (recordOf "ErrorResponse" Failure.check)
      (.object [("error", .text message), ("recoverable", .bool recoverable),
        ("code", .ofText? code), ("detail", .ofText? detail),
        ("statement_position", .ofInt? position)])
      ⟨message, recoverable, code, detail, position⟩ := by
  obtain ⟨codeValue, hcode, hcodeCheck⟩ := accepts_ofText? code
  obtain ⟨detailValue, hdetail, hdetailCheck⟩ := accepts_ofText? detail
  obtain ⟨positionValue, hposition, hpositionCheck⟩ := accepts_ofInt? h
  refine ⟨.object [("error", .text message), ("recoverable", .bool recoverable),
    ("code", codeValue), ("detail", detailValue), ("statement_position", positionValue)], ?_, ?_⟩
  · refine Value.ofJson?_object.mpr ⟨_, ?_, rfl⟩
    exact Entries.ofJson?_cons.mpr ⟨_, _, rfl, Entries.ofJson?_cons.mpr ⟨_, _, rfl,
      Entries.ofJson?_cons.mpr ⟨_, _, hcode, Entries.ofJson?_cons.mpr ⟨_, _, hdetail,
        Entries.ofJson?_cons.mpr ⟨_, _, hposition, rfl, rfl⟩, rfl⟩, rfl⟩, rfl⟩, rfl⟩
  · exact valid_seq (valid_seq (valid_seq (valid_seq (valid_map Failure.mk
      (map_eq_valid.mpr ⟨message, required_eq_valid rfl rfl, rfl⟩)) (required_eq_valid rfl rfl))
      (optional_eq_valid rfl hcodeCheck)) (optional_eq_valid rfl hdetailCheck))
      (optional_eq_valid rfl hpositionCheck)

theorem accepts_rows {objects : List (List (String × Json))} {rows : List Entries}
    (h : List.Forall₂ RowOf objects rows) :
    Accepts (listOf anyObject) (.list (objects.map .object)) rows :=
  ⟨_, ofJson?_objects h, checkItems_anyObject rows 0⟩

section

variable {field : FieldKey} {entries : Entries} {least n : Int}

theorem least_le_of_required
    (h : required field (integerFrom least none).check entries = .valid n) : least ≤ n := by
  obtain ⟨_, hcheck⟩ := exists_of_required h
  exact (integerFrom_eq_ok_iff.mp (check_eq_valid_iff.mp hcheck)).2.1

theorem least_le_of_optional {n : Option Int}
    (h : Validation.optional field none (orNull (integerFrom least none)).check entries =
      .valid n) : ∀ m ∈ n, least ≤ m := by
  rintro m rfl
  rcases eq_default_or_exists_of_optional h with hnone | ⟨value, hcheck⟩
  · cases hnone
  · exact (integerFrom_eq_ok_iff.mp (orNull_eq_ok_some_iff.mp (check_eq_valid_iff.mp hcheck)).2).2.1

theorem atLeastZero_of_required {x : Double}
    (h : required field nonnegativeFloat.check entries = .valid x) : x.AtLeastZero := by
  obtain ⟨_, hcheck⟩ := exists_of_required h
  exact (nonnegativeFloat_eq_ok_iff.mp (check_eq_valid_iff.mp hcheck)).2

end

/-- What requests are answered with. -/
inductive Response where
  | query (result : QueryResult)
  | tables (list : TableList)
  | tableDetails (details : TableDetails)
  | failed (failure : Failure)

inductive Kind where
  | query
  | tables
  | tableDetails
  | failed

/-- The check of the responses of a kind. -/
def Kind.check : Kind → Check Response
  | .query => recordOf "QueryResponse" fun entries => .query <$> QueryResult.check entries
  | .tables => recordOf "TablesResponse" fun entries => .tables <$> TableList.check entries
  | .tableDetails =>
      recordOf "TableDetailsResponse" fun entries => .tableDetails <$> TableDetails.check entries
  | .failed => recordOf "ErrorResponse" fun entries => .failed <$> Failure.check entries

namespace Response

def kind : Response → Kind
  | .query _ => .query
  | .tables _ => .tables
  | .tableDetails _ => .tableDetails
  | .failed _ => .failed

def document : Response → Except Unwritable Json
  | .query result => result.document
  | .tables list => .ok list.document
  | .tableDetails details => details.document
  | .failed failure => failure.document

/-- The text that a client receives. -/
def text (response : Response) : Except Unwritable String := do
  return Payload.text (← response.document)

/-- The rows of free form. -/
def rows : Response → List Entries
  | .query result => result.rows
  | .tableDetails details => details.sampleRows
  | _ => []

/-- The response is what the check of its kind makes of some message. -/
def Valid (response : Response) : Prop :=
  ∃ message, response.kind.check message = .valid response

/-- Counts are not negative, positions start at one, a time is at least zero, and a message is a
text. -/
def WithinLimits : Response → Prop
  | .query result => 0 ≤ result.rowCount ∧ result.milliseconds.AtLeastZero
  | .tables list => 0 ≤ list.count
  | .tableDetails _ => True
  | .failed failure => (∃ message : String, failure.error = message) ∧
      ∀ n ∈ failure.position, 1 ≤ n

/-- The time is finite and reads back, and the values in the rows are plain: they are the values of
documents whose floats are finite and read back. -/
def Plain (response : Response) : Prop :=
  (∃ objects, List.Forall₂ RowOf objects response.rows) ∧
    match response with
    | .query result => Readable style (.float result.milliseconds)
    | _ => True

/-- No integer in the response has more digits than are read. -/
def integersFit : Response → Bool
  | .query result => result.rows.all entriesFit && fits result.rowCount
  | .tables list => fits list.count
  | .tableDetails details => details.sampleRows.all entriesFit
  | .failed failure => failure.position.all fits

theorem Valid.withinLimits {response : Response} (h : response.Valid) :
    response.WithinLimits := by
  obtain ⟨message, h⟩ := h
  cases response with
  | query result =>
    obtain ⟨entries, h⟩ := exists_of_recordOf h
    simp only [QueryResult.check, Functor.map, Seq.seq, seq_eq_valid, map_eq_valid] at h
    obtain ⟨_, ⟨_, _, ⟨_, _, ⟨_, -, rfl⟩, hcount, rfl⟩, htime, rfl⟩, heq⟩ := h
    cases heq
    exact ⟨least_le_of_required hcount, atLeastZero_of_required htime⟩
  | tables list =>
    obtain ⟨entries, h⟩ := exists_of_recordOf h
    simp only [TableList.check, Functor.map, Seq.seq, seq_eq_valid, map_eq_valid] at h
    obtain ⟨_, ⟨_, _, ⟨_, hcount, rfl⟩, -, rfl⟩, heq⟩ := h
    cases heq
    exact least_le_of_required hcount
  | tableDetails details => trivial
  | failed failure =>
    obtain ⟨entries, h⟩ := exists_of_recordOf h
    simp only [Failure.check, Functor.map, Seq.seq, seq_eq_valid, map_eq_valid] at h
    obtain ⟨_, ⟨_, _, ⟨_, _, ⟨_, _, ⟨_, _, ⟨_, ⟨message, -, rfl⟩, rfl⟩, -, rfl⟩, -, rfl⟩, -, rfl⟩,
      hposition, rfl⟩, heq⟩ := h
    cases heq
    exact ⟨⟨message, rfl⟩, least_le_of_optional hposition⟩

end Response

theorem lineStart_spaces (depth : Nat) : Json.Spaces (lineStart depth) := by
  intro c hc
  rw [lineStart, List.mem_cons, List.mem_replicate] at hc
  rcases hc with rfl | ⟨-, rfl⟩ <;> rfl

theorem style_regular : style.Regular where
  opening depth := lineStart_spaces (depth + 1)
  between depth := ⟨_, rfl, lineStart_spaces (depth + 1)⟩
  closing := lineStart_spaces

theorem readable_ofText? (s : Option String) : Readable style (.ofText? s) := by
  cases s <;> trivial

theorem readable_ofInt? (n : Option Int) : Readable style (.ofInt? n) := by
  cases n <;> trivial

theorem readable_map {α : Type} {f : α → Json} {values : List α}
    (h : ∀ value ∈ values, Readable style (f value)) :
    Readable style (.list (values.map f)) :=
  Json.readableItems_iff.mpr (List.forall_mem_map.mpr h)

theorem readable_tableName (name : TableName) : Readable style name.document :=
  ⟨by simp, trivial, trivial, trivial⟩

theorem readable_tableList (list : TableList) : Readable style list.document :=
  ⟨by simp, trivial, readable_map fun name _ => readable_tableName name, trivial⟩

theorem readable_column (column : Column) : Readable style column.document :=
  ⟨by simp, trivial, trivial, trivial, readable_ofText? column.default, trivial⟩

theorem readable_tableLayout (layout : TableLayout) : Readable style layout.document :=
  ⟨by simp, trivial, trivial, readable_map fun column _ => readable_column column, trivial⟩

theorem integersFit_ofText? (s : Option String) : (Json.ofText? s).integersFit = true := by
  cases s <;> rfl

theorem integersFit_ofInt? (n : Option Int) : (Json.ofInt? n).integersFit = n.all fits := by
  cases n <;> rfl

theorem itemsFit_map {α : Type} {f : α → Json} (h : ∀ value, (f value).integersFit = true)
    (values : List α) : Json.itemsFit (values.map f) = true := by
  induction values with
  | nil => rfl
  | cons value values ih => rw [List.map_cons, Json.itemsFit, h value, ih, Bool.and_self]

theorem integersFit_column (column : Column) : column.document.integersFit = true := by
  simp [Column.document, Json.integersFit, Json.membersFit, integersFit_ofText?]

theorem integersFit_tableList (list : TableList) :
    list.document.integersFit = fits list.count := by
  have hname (name : TableName) : name.document.integersFit = true := rfl
  have htables := itemsFit_map hname list.tables
  simp [TableList.document, Json.integersFit, Json.membersFit, htables]

theorem integersFit_tableLayout (layout : TableLayout) : layout.document.integersFit = true := by
  have hcolumns := itemsFit_map integersFit_column layout.columns
  simp [TableLayout.document, Json.integersFit, Json.membersFit, hcolumns]

/-- The response is written as a document from which the check of its kind makes it again. -/
structure Response.WrittenAs (response : Response) (document : Json) : Prop where
  written : response.document = .ok document
  readable : Readable style document
  accepted : Accepts response.kind.check document response
  fits : document.integersFit = response.integersFit

section

variable {objects : List (List (String × Json))} {rows : List Entries}

theorem writtenAs_query (hrows : List.Forall₂ RowOf objects rows)
    (hdepth : ∀ row ∈ rows, Entries.depth row ≤ maxDepth) {n : Int} {x : Double} (hn : 0 ≤ n)
    (hx : x.AtLeastZero) (htime : Readable style (.float x)) :
    (Response.query ⟨rows, n, x⟩).WrittenAs
      (.object [("rows", .list (objects.map .object)), ("row_count", .int n),
        ("execution_time_ms", .float x)]) where
  written := by
    change QueryResult.document _ = _
    rw [QueryResult.document, rowsDocument_of_rowOf hrows, if_pos hdepth, floatContent,
      if_pos htime.1]
    rfl
  readable := ⟨by simp, readable_of_rowOf hrows, trivial, htime, trivial⟩
  accepted := by
    obtain ⟨value, hvalue, hcheck⟩ := accepts_rows hrows
    have hmilliseconds := check_eq_valid_iff.mpr (nonnegativeFloat_of_atLeastZero hx)
    refine ⟨.object [("rows", value), ("row_count", .int n), ("execution_time_ms", .float x)],
      ?_, ?_⟩
    · refine Value.ofJson?_object.mpr ⟨_, ?_, rfl⟩
      exact Entries.ofJson?_cons.mpr ⟨_, _, hvalue, rfl, rfl⟩
    · exact valid_map Response.query (valid_seq (valid_seq (valid_map QueryResult.mk
        (required_eq_valid rfl hcheck)) (required_eq_valid rfl (integerFrom_check hn)))
        (required_eq_valid rfl hmilliseconds))
  fits := by
    simp [Json.integersFit, Json.membersFit, Response.integersFit, ← itemsFit_of_rowOf hrows]

theorem writtenAs_tableDetails (hrows : List.Forall₂ RowOf objects rows)
    (hdepth : ∀ row ∈ rows, Entries.depth row ≤ maxDepth) (layout : TableLayout) :
    (Response.tableDetails ⟨layout, rows⟩).WrittenAs
      (.object [("schema", layout.document), ("sample_rows", .list (objects.map .object))]) where
  written := by
    change TableDetails.document _ = _
    rw [TableDetails.document, rowsDocument_of_rowOf hrows, if_pos hdepth]
    rfl
  readable := ⟨by simp, readable_tableLayout layout, readable_of_rowOf hrows, trivial⟩
  accepted := by
    obtain ⟨value, hvalue, hcheck⟩ := accepts_rows hrows
    obtain ⟨schema, hschema, hlayout⟩ := accepts_tableLayout layout
    exact ⟨_, ofJson?_pair hschema hvalue, valid_map Response.tableDetails (valid_seq
      (valid_map TableDetails.mk (required_eq_valid rfl hlayout)) (required_eq_valid rfl hcheck))⟩
  fits := by
    simp [Json.integersFit, Json.membersFit, Response.integersFit, integersFit_tableLayout,
      ← itemsFit_of_rowOf hrows]

end

theorem writtenAs_tables {list : TableList} (h : 0 ≤ list.count) :
    (Response.tables list).WrittenAs list.document where
  written := rfl
  readable := readable_tableList list
  accepted := by
    obtain ⟨value, hvalue, hcheck⟩ := accepts_tableList h
    exact ⟨value, hvalue, (recordOf_map Response.tables value).trans (valid_map _ hcheck)⟩
  fits := integersFit_tableList list

theorem writtenAs_failed {message : String} {recoverable : Bool} {code detail : Option String}
    {position : Option Int} (h : ∀ n ∈ position, 1 ≤ n) :
    (Response.failed ⟨message, recoverable, code, detail, position⟩).WrittenAs
      (.object [("error", .text message), ("recoverable", .bool recoverable),
        ("code", .ofText? code), ("detail", .ofText? detail),
        ("statement_position", .ofInt? position)]) where
  written := by
    change Failure.document _ = _
    rw [Failure.document, Text.RawText.encoded_ofString]
  readable := ⟨by simp, trivial, trivial, readable_ofText? code, readable_ofText? detail,
    readable_ofInt? position, trivial⟩
  accepted := by
    obtain ⟨value, hvalue, hcheck⟩ := accepts_failure h
    exact ⟨value, hvalue, (recordOf_map Response.failed value).trans (valid_map _ hcheck)⟩
  fits := by
    simp [Json.integersFit, Json.membersFit, Response.integersFit, integersFit_ofText?,
      integersFit_ofInt?]

theorem Response.exists_writtenAs {response : Response} (hvalid : response.Valid)
    (hplain : response.Plain) (hdepth : ∀ row ∈ response.rows, Entries.depth row ≤ maxDepth) :
    ∃ document, response.WrittenAs document := by
  obtain ⟨⟨objects, hrows⟩, htime⟩ := hplain
  have hlimits := hvalid.withinLimits
  cases response with
  | query result => exact ⟨_, writtenAs_query hrows hdepth hlimits.1 hlimits.2 htime⟩
  | tables list => exact ⟨_, writtenAs_tables hlimits⟩
  | tableDetails details => exact ⟨_, writtenAs_tableDetails hrows hdepth details.layout⟩
  | failed failure =>
    obtain ⟨⟨message, herror⟩, hposition⟩ := hlimits
    obtain ⟨error, recoverable, code, detail, position⟩ := failure
    obtain rfl : error = message := herror
    exact ⟨_, writtenAs_failed hposition⟩

/-- The text of a response is that of a document, and it is read as that document unless an integer
is too long. -/
theorem Response.WrittenAs.text_eq {response : Response} {document : Json}
    (h : response.WrittenAs document) : ∃ text, response.text = .ok text ∧
      Json.ofText text = Json.whenFits response.integersFit document := by
  refine ⟨style.text document, ?_, ?_⟩
  · rw [text, h.written]
    rfl
  · rw [Json.ofText_text style_regular h.readable, h.fits]

theorem leadingExponent_self (n : Nat) : leadingExponent n n = 0 := by
  simp [leadingExponent, tenTo]

theorem shortest_one : shortest 4503599627370496 1022 = ⟨1, 0⟩ := by
  have hunits : 4503599627370496 * twoTo 1022 = unitsPerOne := by decide +kernel
  have hgrid : onGrid 4503599627370496 1022 0 = some ⟨1, 0⟩ := by decide +kernel
  simp [shortest, hunits, leadingExponent_self, List.range_succ_eq_map, hgrid,
    Scientific.stripZeros]

def oneMillisecond : Double := .finite false 4503599627370496 1022

theorem readable_oneMillisecond : Readable style (.float oneMillisecond) := by
  have hwrite : style.float.write oneMillisecond = "1.0" := by
    rw [oneMillisecond, Layout.write, if_neg (by decide), shortest_one]
    rfl
  have hread : readDecimal false ['1', '.', '0'] = some oneMillisecond := by decide +kernel
  refine ⟨rfl, ?_⟩
  rw [hwrite, Json.ofText_eq_ofNumberText? (by simp [Json.NumberText, Json.isNumberChar])]
  exact congrArg (Option.map Json.float) hread

/-- The text of a response is a document from which the check of its kind makes the response again.
Wherever a text of a row stands, reading it ends at its own closing quote. -/
theorem Response.text_read_back (response : Response) (hvalid : response.Valid)
    (hplain : response.Plain) (hdepth : ∀ row ∈ response.rows, Entries.depth row ≤ maxDepth)
    (hfits : response.integersFit = true) :
    (∃ text document value, response.text = .ok text ∧ Json.ofText text = some document ∧
        Value.ofJson? document = some value ∧ response.kind.check value = .valid response) ∧
      ∀ (depth : Nat) (s : String) (rest : List Char),
        Json.readValue 1 (style.print depth (.text s) ++ rest) = some (.text s, rest) := by
  refine ⟨?_, fun depth s rest => ?_⟩
  · obtain ⟨document, hwritten⟩ := exists_writtenAs hvalid hplain hdepth
    obtain ⟨text, htext, hread⟩ := hwritten.text_eq
    obtain ⟨value, hvalue, hcheck⟩ := hwritten.accepted
    rw [hfits] at hread
    exact ⟨text, document, value, htext, hread, hvalue, hcheck⟩
  · have hquoted := Json.readValue_quotedRaw style.escapes (.ofString s) Json.spaces_nil rest 0
    rwa [Json.ofRaw_ofString, ← Json.quoted_eq_quotedRaw] at hquoted

def escapedMembers : List (String × Json) :=
  [("tags", .list [.list [], .object [], .null, .int (-12345678901234567890)]),
   ("\"note\"", .text "a \\ and a \"quote\", a line\n\x01 and ü"),
   ("ratio", .float oneMillisecond)]

def escapedRow : Entries :=
  [("tags", .list [.list [], .object [], .null, .int (-12345678901234567890)]),
   ("\"note\"", .text "a \\ and a \"quote\", a line\n\x01 and ü"),
   ("ratio", .float oneMillisecond)]

theorem text_read_back_escapedRow :
    let response := Response.query ⟨[escapedRow], 1, oneMillisecond⟩
    (∃ text document value, response.text = .ok text ∧ Json.ofText text = some document ∧
        Value.ofJson? document = some value ∧ response.kind.check value = .valid response) ∧
      ∀ (depth : Nat) (s : String) (rest : List Char),
        Json.readValue 1 (style.print depth (.text s) ++ rest) = some (.text s, rest) := by
  have hrow : RowOf escapedMembers escapedRow :=
    ⟨⟨by decide, ⟨trivial, ⟨by simp, trivial⟩, trivial, trivial, trivial⟩, trivial,
      readable_oneMillisecond, trivial⟩, rfl⟩
  apply Response.text_read_back
  · exact ⟨.object [("rows", .list [.object escapedRow]), ("row_count", .int 1),
      ("execution_time_ms", .float oneMillisecond)], rfl⟩
  · exact ⟨⟨[escapedMembers], .cons hrow .nil⟩, readable_oneMillisecond⟩
  · decide
  · decide

/-- A response with a row that is nested too deep has no text. -/
theorem Response.text_tooDeep {response : Response} (hplain : response.Plain)
    (hdepth : ¬ ∀ row ∈ response.rows, Entries.depth row ≤ maxDepth) :
    response.text = .error .tooDeep := by
  obtain ⟨⟨objects, hrows⟩, -⟩ := hplain
  have hrefused := rowsDocument_of_rowOf hrows
  rw [if_neg hdepth] at hrefused
  cases response with
  | query result =>
    change rowsDocument result.rows = _ at hrefused
    rw [text, document, QueryResult.document, hrefused]
    rfl
  | tableDetails details =>
    change rowsDocument details.sampleRows = _ at hrefused
    rw [text, document, TableDetails.document, hrefused]
    rfl
  | _ => cases hrefused

/-- A response with an integer that is too long has a text, but the text is not read. -/
theorem Response.text_unread {response : Response} (hvalid : response.Valid)
    (hplain : response.Plain) (hdepth : ∀ row ∈ response.rows, Entries.depth row ≤ maxDepth)
    (hlong : response.integersFit = false) :
    ∃ text, response.text = .ok text ∧ Json.ofText text = none := by
  obtain ⟨document, hwritten⟩ := exists_writtenAs hvalid hplain hdepth
  obtain ⟨text, htext, hread⟩ := hwritten.text_eq
  rw [hlong] at hread
  exact ⟨text, htext, hread⟩

/-- A list in a list, and so on, inside as many others. -/
def nested : Nat → Value
  | 0 => .list []
  | n + 1 => .list [nested n]

theorem depth_nested (n : Nat) : (nested n).depth = n + 1 := by
  induction n with
  | zero => rfl
  | succ n ih => simp [nested, Value.depth, Value.listDepth, ih]

theorem exists_nested (n : Nat) :
    ∃ document, Readable style document ∧ Value.ofJson? document = some (nested n) := by
  induction n with
  | zero => exact ⟨.list [], trivial, rfl⟩
  | succ n ih =>
    obtain ⟨document, hreadable, hvalue⟩ := ih
    refine ⟨.list [document], ⟨hreadable, trivial⟩, Value.ofJson?_list.mpr ⟨_, ?_, rfl⟩⟩
    exact Value.listOfJson?_cons.mpr ⟨_, _, hvalue, rfl, rfl⟩

/-- A response with one row, which has one field. -/
def single (value : Value) : Response := .query ⟨[[("a", value)]], 1, oneMillisecond⟩

theorem single_valid (value : Value) : (single value).Valid :=
  ⟨.object [("rows", .list [.object [("a", value)]]), ("row_count", .int 1),
    ("execution_time_ms", .float oneMillisecond)], rfl⟩

theorem single_plain {document : Json} {value : Value} (hreadable : Readable style document)
    (hvalue : Value.ofJson? document = some value) : (single value).Plain := by
  have hrow : RowOf [("a", document)] [("a", value)] :=
    ⟨⟨by simp, hreadable, trivial⟩, Entries.ofJson?_cons.mpr ⟨_, _, hvalue, rfl, rfl⟩⟩
  exact ⟨⟨[[("a", document)]], .cons hrow .nil⟩, readable_oneMillisecond⟩

/-- A list that is nested too deep is not written, and an integer that is too long is written but
not read. -/
theorem not_read_back_single :
    ((single (nested maxDepth)).Valid ∧ (single (nested maxDepth)).Plain ∧
        (single (nested maxDepth)).text = .error .tooDeep) ∧
      (single (.int (10 ^ maxDigits))).Valid ∧ (single (.int (10 ^ maxDigits))).Plain ∧
        ∃ text, (single (.int (10 ^ maxDigits))).text = .ok text ∧ Json.ofText text = none := by
  obtain ⟨document, hreadable, hvalue⟩ := exists_nested maxDepth
  have hdeep := single_plain hreadable hvalue
  have hnumber : Readable style (.int (10 ^ maxDigits)) := trivial
  have hinteger : (single (.int (10 ^ maxDigits))).Plain := single_plain hnumber rfl
  refine ⟨⟨single_valid _, hdeep, Response.text_tooDeep hdeep fun hdepth => ?_⟩, single_valid _,
    hinteger, Response.text_unread (single_valid _) hinteger ?_ ?_⟩
  · have hrow := hdepth _ List.mem_cons_self
    simp [Entries.depth, depth_nested] at hrow
  · simp [single, Response.rows, Entries.depth, Value.depth, maxDepth]
  · simp [single, Response.integersFit, entriesFit, Value.fits, fits_pow_maxDigits]

end QueryGate.Payload
