import QueryGate.Disk
import QueryGate.Payload.Content
import QueryGate.Settings
import QueryGate.Sql.Identifier

/-!
# Faults

What can go wrong while a request is served or the server runs. Errors of the service itself say
whether a changed request may succeed; errors of the database driver carry the state code and
detail of the database. Interrupts and exits are not exceptions: no handler of exceptions stops
them.

A fault has a message, a name, and a description that log lines show. Messages of the service may
quote the path of a file, so that they are raw texts.
-/

namespace QueryGate

open QueryGate.Text QueryGate.Validation

inductive ServiceError where
  | general (message : RawText) (recoverable : Bool)
  /-- A query is refused, perhaps because of one statement with its position. -/
  | refused (reason : String) (statement : Option String) (position : Option Int)
  | unsafeIdentifier (identifier reason : String)
  | database (message : RawText) (code detail : Option String)
  | configuration (message : String)
  | connection (message : String)
  deriving DecidableEq, Repr

namespace ServiceError

def message : ServiceError → RawText
  | .general message _ => message
  | .refused reason _ _ => reason
  | .unsafeIdentifier _ reason => reason
  | .database message _ _ => message
  | .configuration message => message
  | .connection message => message

/-- A changed request may succeed. -/
def recoverable : ServiceError → Bool
  | .general _ recoverable => recoverable
  | .configuration _ => false
  | _ => true

def name : ServiceError → String
  | .general .. => "MCPError"
  | .refused .. => "QueryValidationError"
  | .unsafeIdentifier .. => "UnsafeIdentifierError"
  | .database .. => "PostgresError"
  | .configuration _ => "ConfigurationError"
  | .connection _ => "DatabaseConnectionError"

end ServiceError

/-- The kinds of errors of the database driver. -/
inductive DriverErrorKind where
  | pool
  | operational
  | programming
  | interface
  | data
  | canceled
  | readOnly
  | uniqueViolation
  | undefinedTable
  | adminShutdown
  deriving DecidableEq, Repr

def DriverErrorKind.name : DriverErrorKind → String
  | .pool => "PoolError"
  | .operational => "OperationalError"
  | .programming => "ProgrammingError"
  | .interface => "InterfaceError"
  | .data => "DataError"
  | .canceled => "QueryCanceled"
  | .readOnly => "ReadOnlySqlTransaction"
  | .uniqueViolation => "UniqueViolation"
  | .undefinedTable => "UndefinedTable"
  | .adminShutdown => "AdminShutdown"

def DriverErrorKind.family : DriverErrorKind → String
  | .pool => "psycopg2.pool"
  | .operational | .programming | .interface | .data => "psycopg2"
  | _ => "psycopg2.errors"

/-- An error of the database driver, with the state code and the detail of the database. -/
structure DriverError where
  kind : DriverErrorKind
  message : String
  code : Option String
  detail : Option String
  deriving DecidableEq, Repr

/-- The kinds of exceptions that belong to neither the service nor the driver. -/
inductive PlainKind where
  | runtime
  | value
  | type
  | key
  | index
  | attribute
  | overflow
  | system
  deriving DecidableEq, Repr

def PlainKind.name : PlainKind → String
  | .runtime => "RuntimeError"
  | .value => "ValueError"
  | .type => "TypeError"
  | .key => "KeyError"
  | .index => "IndexError"
  | .attribute => "AttributeError"
  | .overflow => "OverflowError"
  | .system => "OSError"

/-- What can end an action early. -/
inductive Fault where
  | service (error : ServiceError)
  | driver (error : DriverError)
  | plain (kind : PlainKind) (message : String)
  | invalidData (data : InvalidData)
  | unwritable (failure : Payload.Unwritable)
  | file (fault : OpenFault)
  /-- A request cannot be answered, by the status code of the protocol. -/
  | unavailable (status : Nat) (detail : String)
  /-- The user interrupts the program. -/
  | interrupt (message : String)
  /-- The program ends with a code. -/
  | exit (code : Int)
  deriving Repr

namespace Fault

/-- The fault is an exception, which handlers of exceptions stop. -/
def isException : Fault → Bool
  | .interrupt _ => false
  | .exit _ => false
  | _ => true

def message : Fault → RawText
  | .service error => error.message
  | .driver error => error.message
  | .plain _ message => message
  | .invalidData data => data.message
  | .unwritable failure => failure.message
  | .file fault => fault.message
  | .unavailable status detail => (toString status ++ ": " ++ detail : String)
  | .interrupt message => message
  | .exit code => toString code

def name : Fault → String
  | .service error => error.name
  | .driver error => error.kind.name
  | .plain kind _ => kind.name
  | .invalidData _ => "ValidationError"
  | .unwritable _ => "PydanticSerializationError"
  | .file fault => fault.name
  | .unavailable .. => "HTTPException"
  | .interrupt _ => "KeyboardInterrupt"
  | .exit _ => "SystemExit"

/-- The family that the fault's kind belongs to, if it belongs to one. -/
def family : Fault → Option String
  | .service _ => some "postgres_mcp.models.error_types"
  | .driver error => some error.kind.family
  | .invalidData _ => some "pydantic_core._pydantic_core"
  | .unwritable _ => some "pydantic_core._pydantic_core"
  | .unavailable .. => some "fastapi.exceptions"
  | _ => none

/-- The description in log lines: the full name, and the message unless it is empty. -/
def describe (fault : Fault) : RawText :=
  let name := match fault.family with
    | some family => family ++ "." ++ fault.name
    | none => fault.name
  if fault.message.isEmpty then name else name ++ ": " ++ fault.message

/-- A name that cannot be quoted. -/
def ofUnsafeIdentifier (failure : Sql.UnsafeIdentifier) : Fault :=
  .service (.unsafeIdentifier failure.identifier Sql.UnsafeIdentifier.message)

/-- An integer is too large to be written. -/
def oversized : Fault := .plain .value Number.oversizedText

def ofSettingsError (failure : SettingsError) : Fault := .service (.configuration failure.message)

end Fault

end QueryGate
