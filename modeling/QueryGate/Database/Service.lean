import QueryGate.Value.Conversion
import QueryGate.World

/-!
# The database service

The service holds a pool of connections, once it is opened, and knows whether the last probe
reached the database. Every operation takes a connection out of the pool and gives it back
however the operation ends. A query is committed; probes and look-ups are rolled back.
-/

namespace QueryGate

open QueryGate.Number QueryGate.Text

structure Service where
  settings : Settings
  /-- The number of the open pool. -/
  pool : Option Nat
  /-- The last probe reached the database. -/
  connected : Bool
  deriving Repr

namespace Service

def tablesQuery : String :=
  "\n    SELECT table_schema, table_name\n" ++
  "    FROM information_schema.tables\n" ++
  "    WHERE table_type = 'BASE TABLE'\n" ++
  "      AND table_schema NOT IN ('pg_catalog', 'information_schema')\n" ++
  "    ORDER BY table_schema, table_name\n"

/-- The query that lists the columns of a table, with schema and table as its parameters. -/
def columnsQuery : String :=
  "\n    SELECT\n" ++
  "        column_name,\n" ++
  "        data_type,\n" ++
  "        is_nullable,\n" ++
  "        column_default\n" ++
  "    FROM information_schema.columns\n" ++
  "    WHERE table_schema = %s\n" ++
  "      AND table_name = %s\n" ++
  "    ORDER BY ordinal_position\n"

def probeQuery : String := "SELECT 1 AS test"

def readOnlyStatement : String := "SET TRANSACTION READ ONLY"

/-- The text of the statement that limits the time of the statements after it. -/
def timeoutText (milliseconds : Int) : String :=
  "SET statement_timeout = " ++ toString milliseconds

/-- The statement that limits the time, unless the number is too large to be written. -/
def timeoutStatement (milliseconds : Int) : Except Fault String :=
  if fits milliseconds then .ok (timeoutText milliseconds) else .error .oversized

def new (settings : Settings) : Service := ⟨settings, none, false⟩

/-- How many connections the pool holds at most. -/
def poolSize (service : Service) : Int := service.settings.maxConnections

def status (service : Service) : Entries :=
  [("connected", .bool service.connected), ("pool_size", .int service.poolSize)]

abbrev Action := Act Service

def log (level : Log.Level) (message : RawText) : Action Unit :=
  Act.note level Log.Channel.database message

def logWith (level : Log.Level) (message : RawText) (fields : Entries) : Action Unit :=
  Act.noteWith level Log.Channel.database message fields

/-- The fault of a certificate file that cannot be read, which shows its path. -/
def unreadCertificate (path : RawText) : Fault :=
  .service (.database ("Failed to read SSL root certificate at " ++ path) none none)

/-- Make sure that the certificate file can be read, if there is one. -/
def checkCertificate (settings : Settings) : Action Unit := do
  match settings.certificateFile with
  | none => return ()
  | some path => match (← Act.world).disk.openForReading path with
    | .ok () => return ()
    | .error .nullCharacter => throw (.file .nullCharacter)
    | .error fault => do
        log .error ("Failed to read SSL root certificate: " ++ fault.message)
        throw (unreadCertificate path)

/-- Open a pool of connections, which becomes the service's own. -/
def openOwn (settings : Settings) : Action Unit := do
  logWith .info "Creating PostgreSQL connection"
    [("max_connections", .int settings.maxConnections), ("tls_enabled", .bool settings.usesTls)]
  let parameters : Parameters :=
    [("minconn", .value (.int 1)), ("maxconn", .value (.int settings.maxConnections))] ++
      settings.connectionParameters
  let pool ← (Act.openPool parameters).recover fun
    | .driver error => do
        log .error ("Failed to create connection pool: " ++ error.message)
        throw (.service (.connection ("Failed to connect to database: " ++ error.message)))
    | fault => throw fault
  Act.update fun service => { service with pool := some pool }

/-- Connect to the database: the certificate file is checked, and the pool is opened. -/
def connect : Action Unit := do
  let settings := (← Act.self).settings
  checkCertificate settings
  openOwn settings

/-- Run an action with a connection of the pool, which is given back at the end. -/
def withConnection {α : Type} (act : Action α) : Action α := do
  match (← Act.self).pool with
  | none => do
      log .error "Attempted to get connection but pool not initialized"
      throw (.service (.connection "Database connection pool not initialized"))
  | some pool => do
      (Act.checkOut pool).recover fun
        | .driver error =>
            if error.kind = .pool then
              throw (.service (.connection ("Connection pool exhausted: " ++ error.message)))
            else throw (.driver error)
        | fault => throw fault
      act.ensuring (Act.giveBack pool)

/-- Run an action with a cursor, which is closed at the end. -/
def withCursor {α : Type} (named : Bool) (act : Action α) : Action α := do
  Act.openCursor named
  act.ensuring Act.closeCursor

/-- Note that the database was not reached, and fail. -/
def unreachable {α : Type} (code detail : Option String) : Action α := do
  Act.update fun service => { service with connected := false }
  throw (.service (.database "Failed to connect to database" code detail))

/-- Probe the database with a trivial query. -/
def probe : Action Unit := do
  Act.recover
    (withConnection do
      withCursor false do
        Act.execute probeQuery
        Act.fetchOne
      Act.rollback)
    fun
      | .driver error => unreachable error.code (some (trimmed error.message))
      | .service (.connection message) => unreachable none (some message)
      | fault => throw fault
  Act.update fun service => { service with connected := true }
  log .info "Database connection established successfully"

def queryError (error : DriverError) : ServiceError :=
  match error.kind with
  | .readOnly => .database
      (trimmed ("Write operation attempted in read-only mode: " ++ error.message))
      error.code error.detail
  | .canceled => .database
      ("Query timeout exceeded. Consider refining your query to be more specific or limit the " ++
        "data range." : String) error.code error.detail
  | _ =>
      let message := trimmed error.message
      .database (if message.isEmpty then "Query execution failed" else message : String)
        error.code error.detail

/-- Log a driver's error during a query. A write in a read-only transaction is not logged. -/
def logQueryError (error : DriverError) : Action Unit :=
  match error.kind with
  | .readOnly => return ()
  | .canceled => log .warning ("Query timeout exceeded: " ++ error.message)
  | _ => log .error ("Query execution failed: " ++ error.message)

def entriesOfRows (rows : List Value) : Action (List Entries) :=
  Act.ofExcept (rows.mapM Entries.ofValue)

/-- The statements of a query in their order, and the rows of the last one. -/
def runStatements (sql : String) (readOnly : Bool) (timeout : Int) : Action (List Value) := do
  if readOnly then
    Act.execute readOnlyStatement
  Act.execute (← Act.ofExcept (timeoutStatement timeout))
  Act.execute sql
  if ← Act.hasRows then Act.fetchAll else return []

/-- Milliseconds between two readings of the clock. -/
def elapsedMillis (start finish : Double) : Double := (finish.sub start).scale 1000

/-- Report a fault of a query. An error of the driver is rolled back first. -/
def reportQueryFault {α : Type} : Fault → Action α
  | .driver error => do
      Act.rollback
      logQueryError error
      throw (.service (queryError error))
  | fault => throw fault

/-- Run a query exactly as it is given, in a read-only transaction if asked for, and commit. The
result is the rows of the last statement. -/
def query (sql : String) (readOnly : Bool) : Action (List Entries) := do
  logWith .debug "Executing query"
    [("query_length", .int sql.length), ("preview", .text (firstChars 100 sql)),
     ("read_only", .bool readOnly)]
  let timeout := (← Act.self).settings.statementTimeout
  withConnection do
    Act.recover
      (do
        let start ← Act.readClock
        let rows ← withCursor true (runStatements sql readOnly timeout)
        Act.commit
        let finish ← Act.readClock
        logWith .info "Query executed successfully"
          [("row_count", .int rows.length),
           ("duration", .text (wholeText (elapsedMillis start finish) ++ "ms"))]
        entriesOfRows rows)
      reportQueryFault

def tables : Action (List Entries) := do
  let rows ← withConnection do
    Act.recover
      (do
        let rows ← withCursor true do
          Act.execute tablesQuery
          entriesOfRows (← Act.fetchAll)
        Act.rollback
        return rows)
      fun
        | .driver error => do
            Act.rollback
            log .error ("Failed to retrieve tables: " ++ error.message)
            throw (.service
              (.database "Failed to retrieve table list" error.code error.detail))
        | fault => throw fault
  logWith .debug "Retrieved table list" [("count", .int rows.length)]
  return rows

/-- What is known of a table: its columns, and sample rows. -/
structure TableRows where
  schema : String
  table : String
  columns : List Entries
  sampleRows : List Entries
  deriving Repr

/-- The fault of a table without visible columns. -/
def tableMissing (schema table : String) : Fault :=
  .service (.database
    ("Table " ++ schema ++ "." ++ table ++ " not found or no columns visible" : String) none none)

/-- Read the columns of a table, and sample rows if there are columns. -/
def readTable (schema table sampleQuery : String) : Action (List Entries × List Entries) := do
  Act.executeWith columnsQuery [schema, table]
  let columns ← entriesOfRows (← Act.fetchAll)
  if columns.isEmpty then
    throw (tableMissing schema table)
  Act.execute sampleQuery
  return (columns, ← entriesOfRows (← Act.fetchAll))

/-- The report of a driver's error while a table is read. -/
def detailsError (schema table : String) (error : DriverError) : ServiceError :=
  .database ("Failed to retrieve details for table " ++ schema ++ "." ++ table : String)
    error.code error.detail

/-- Read the layout and sample rows of a table. -/
def tableDetails (schema table : String) : Action TableRows := do
  if schema.isEmpty || table.isEmpty then
    throw (.service (.database "Schema and table name are required" none none))
  let sampleQuery ← match Sql.sampleRowsQuery schema table Sql.sampleRowLimit with
    | .ok sampleQuery => pure sampleQuery
    | .error failure => throw (Fault.ofUnsafeIdentifier failure)
  let (columns, sampleRows) ← withConnection do
    Act.recover
      (do
        let rows ← withCursor true (readTable schema table sampleQuery)
        Act.rollback
        return rows)
      fun
        | .service (.database message code detail) => do
            Act.rollback
            throw (.service (.database message code detail))
        | .driver error => do
            Act.rollback
            log .error
              ("Failed to get details for " ++ schema ++ "." ++ table ++ ": " ++ error.message)
            throw (.service (detailsError schema table error))
        | fault => throw fault
  logWith .debug "Retrieved table details"
    [("schema", .text schema), ("table", .text table), ("column_count", .int columns.length),
     ("sample_row_count", .int sampleRows.length)]
  return ⟨schema, table, columns, sampleRows⟩

def close : Action Unit := do
  match (← Act.self).pool with
  | none => return ()
  | some pool => do
      Act.closePool pool
      Act.update fun service => { service with pool := none, connected := false }
      log .info "Database connection closed"

end Service

end QueryGate
