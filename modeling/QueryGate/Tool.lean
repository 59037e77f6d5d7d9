import QueryGate.Database.Service
import QueryGate.Gate
import QueryGate.Payload.Record

/-!
# The tools

A query passes the gate and is run exactly as given. Unless the gate allows writes it runs in a
read-only transaction. Of the table tools one lists the tables, another one gives the layout and
sample rows of a table.
-/

namespace QueryGate.Tool

open QueryGate.Number QueryGate.Payload QueryGate.Validation

/-- Data that was checked, or its report as a fault. -/
def accept {σ α : Type} (record : String) (checked : Checked α) : Act σ α :=
  match checked.toExcept record with
  | .ok value => return value
  | .error data => throw (.invalidData data)

/-- Report a fault of a query. Exceptions that are no errors of the service are logged and become
one. -/
def reportFault {α : Type} : Fault → Service.Action α
  | .service error => throw (.service error)
  | fault =>
      if fault.isException then do
        Act.note .error Log.Channel.queryTool
          ("Unexpected error executing query: " ++ fault.message)
        throw (.service (.general ("Query execution failed: " ++ fault.message) true))
      else throw fault

/-- Run a query and take the time, in milliseconds. -/
def timedQuery (sql : String) (readOnly : Bool) : Service.Action (List Entries × Double) :=
  Act.recover
    (do
      let start ← Act.readClock
      let rows ← Service.query sql readOnly
      let finish ← Act.readClock
      return (rows, Service.elapsedMillis start finish))
    reportFault

/-- The record of a query's result, which must not have taken a negative time. -/
def queryResult (rows : List Entries) (milliseconds : Double) : Checked QueryResult :=
  QueryResult.check
    [("rows", .list (rows.map .object)), ("row_count", .int rows.length),
     ("execution_time_ms", .float (milliseconds.roundTo 2))]

def query (gate : Gate) (sql : String) : Service.Action QueryResult := do
  gate.check sql
  let (rows, milliseconds) ← timedQuery sql (!gate.allowWrites)
  accept "QueryResponse" (queryResult rows milliseconds)

def tables : Service.Action TableList := do
  let rows ← Service.tables
  let names ← rows.mapM fun row => accept "TableInfo" (TableName.check row)
  return ⟨names.length, names⟩

def detailsOf (rows : Service.TableRows) : Checked TableDetails :=
  TableDetails.check
    [("schema", .object
        [("schema", .text rows.schema), ("table", .text rows.table),
         ("columns", .list (rows.columns.map .object))]),
     ("sample_rows", .list (rows.sampleRows.map .object))]

/-- Give the layout and sample rows of a table. -/
def tableDetails (schema table : String) : Service.Action TableDetails := do
  if schema.isEmpty || table.isEmpty then
    throw (.service (.general "Schema and table parameters are required" true))
  let rows ← Service.tableDetails schema table
  Act.note .debug Log.Channel.tableTool ("Built table details for " ++ schema ++ "." ++ table)
  accept "TableDetailsResponse" (detailsOf rows)

end QueryGate.Tool
