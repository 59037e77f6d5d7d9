import QueryGate.Fault
import QueryGate.Payload.Content
import QueryGate.Validation.Check

/-!
# Payload records

The records that requests are answered with. Each has a check, which reads it from the entries
of a message, and a document, which is its form in a payload; both use the same field names in
the same order.

Every fault of a request becomes an answer. An error of the service says itself whether a
changed request may succeed; after any other exception none is expected to. There is no document
for an answer whose message is no text.
-/

namespace QueryGate.Payload

open QueryGate.Number QueryGate.Text QueryGate.Validation

structure TableName where
  schema : String
  table : String
  deriving DecidableEq, Repr

/-- The tables of a database. -/
structure TableList where
  count : Int
  tables : List TableName
  deriving DecidableEq, Repr

structure Column where
  name : String
  dataType : String
  nullable : String
  default : Option String
  deriving DecidableEq, Repr

/-- The columns of a table, in order. -/
structure TableLayout where
  schema : String
  table : String
  columns : List Column
  deriving DecidableEq, Repr

/-- The layout of a table and some of its rows. -/
structure TableDetails where
  layout : TableLayout
  sampleRows : List Entries
  deriving Repr

/-- The rows of a query's last result, and how long the query took. -/
structure QueryResult where
  rows : List Entries
  rowCount : Int
  milliseconds : Double
  deriving Repr

/-- The answer to a request that failed. -/
structure Failure where
  error : RawText
  recoverable : Bool
  code : Option String
  detail : Option String
  /-- Which statement was refused, counted from one. -/
  position : Option Int
  deriving DecidableEq, Repr

def TableName.check (entries : Entries) : Checked TableName :=
  TableName.mk <$> required "table_schema" text.check entries
    <*> required "table_name" text.check entries

def TableList.check (entries : Entries) : Checked TableList :=
  TableList.mk <$> required "count" (integerFrom 0 none).check entries
    <*> required "tables" (listOf (recordOf "TableInfo" TableName.check)) entries

def Column.check (entries : Entries) : Checked Column :=
  Column.mk <$> required "column_name" text.check entries
    <*> required "data_type" text.check entries
    <*> required "is_nullable" text.check entries
    <*> optional "column_default" none (orNull text).check entries

def TableLayout.check (entries : Entries) : Checked TableLayout :=
  TableLayout.mk <$> required ⟨"schema", some "schema_name"⟩ text.check entries
    <*> required "table" text.check entries
    <*> required "columns" (listOf (recordOf "ColumnInfo" Column.check)) entries

def TableDetails.check (entries : Entries) : Checked TableDetails :=
  TableDetails.mk
    <$> required ⟨"schema", some "table_schema"⟩ (recordOf "TableSchema" TableLayout.check) entries
    <*> required "sample_rows" (listOf anyObject) entries

def QueryResult.check (entries : Entries) : Checked QueryResult :=
  QueryResult.mk <$> required "rows" (listOf anyObject) entries
    <*> required "row_count" (integerFrom 0 none).check entries
    <*> required "execution_time_ms" nonnegativeFloat.check entries

/-- Check an answer to a failed request. -/
def Failure.check (entries : Entries) : Checked Failure :=
  Failure.mk <$> (required "error" text.check entries).map .ofString
    <*> required "recoverable" boolean.check entries
    <*> optional "code" none (orNull text).check entries
    <*> optional "detail" none (orNull text).check entries
    <*> optional "statement_position" none (orNull (integerFrom 1 none)).check entries

def TableName.document (name : TableName) : Json :=
  .object [("table_schema", .text name.schema), ("table_name", .text name.table)]

def TableList.document (list : TableList) : Json :=
  .object [("count", .int list.count), ("tables", .list (list.tables.map (·.document)))]

def Column.document (column : Column) : Json :=
  .object
    [("column_name", .text column.name), ("data_type", .text column.dataType),
     ("is_nullable", .text column.nullable), ("column_default", .ofText? column.default)]

def TableLayout.document (layout : TableLayout) : Json :=
  .object
    [("schema", .text layout.schema), ("table", .text layout.table),
     ("columns", .list (layout.columns.map (·.document)))]

def rowsDocument (rows : List Entries) : Except Unwritable Json := do
  return .list (← rows.mapM rowContent)

def TableDetails.document (details : TableDetails) : Except Unwritable Json := do
  let rows ← rowsDocument details.sampleRows
  return .object [("schema", details.layout.document), ("sample_rows", rows)]

def QueryResult.document (result : QueryResult) : Except Unwritable Json := do
  let rows ← rowsDocument result.rows
  return .object
    [("rows", rows), ("row_count", .int result.rowCount),
     ("execution_time_ms", floatContent result.milliseconds)]

/-- The document for the answer to a failed request. -/
def Failure.document (failure : Failure) : Except Unwritable Json :=
  match failure.error.encoded with
  | .error fault => .error (.unencodable fault)
  | .ok message => .ok (.object
      [("error", .text message), ("recoverable", .bool failure.recoverable),
       ("code", .ofText? failure.code), ("detail", .ofText? failure.detail),
       ("statement_position", .ofInt? failure.position)])

/-- The answer to a request that failed. -/
def Failure.ofFault : Fault → Failure
  | .service error =>
      match error with
      | .database message code detail => ⟨message, error.recoverable, code, detail, none⟩
      | .refused reason _ position => ⟨reason, error.recoverable, none, none, position⟩
      | error => ⟨error.message, error.recoverable, none, none, none⟩
  | fault => ⟨"Unexpected error: " ++ fault.message, false, none, none, none⟩

def text (document : Json) : String := style.text document

end QueryGate.Payload
