import QueryGate.Calendar
import QueryGate.Fault
import QueryGate.Json.Document
import QueryGate.Value.Conversion

/-!
# Log records and their lines

A record has a level, the name of the channel it is sent to, and a message. It may carry
structured fields and the fault that led to it. The fields should be an object, but a record
carries whatever was given for them.

A record is written as one line in either of two formats: as a JSON object, or as plain text
followed by the fields. A JSON line is ASCII only, so that no message can break the line; the
fields of a record come after the standard members and replace those of the same name.

There is no line for a record whose fields are no entries: the plain format wants an object, and
the JSON format is content with pairs. Nor is there one for a record with an integer that is too
large to be written, or with a time that the format does not reach.
-/

namespace QueryGate.Log

open QueryGate.Text QueryGate.Calendar
open QueryGate.Number (padded)

/-- How urgent a record is. -/
inductive Level where
  | notSet
  | debug
  | info
  | warning
  | error
  | critical
  deriving DecidableEq, Repr

namespace Level

def number : Level → Nat
  | .notSet => 0
  | .debug => 10
  | .info => 20
  | .warning => 30
  | .error => 40
  | .critical => 50

def name : Level → String
  | .notSet => "NOTSET"
  | .debug => "DEBUG"
  | .info => "INFO"
  | .warning => "WARNING"
  | .error => "ERROR"
  | .critical => "CRITICAL"

end Level

/-- What led to a record. -/
inductive Cause where
  /-- Nothing is said about a cause. -/
  | none
  /-- A cause was asked for where there is none. -/
  | absent
  | raised (fault : Fault)
  deriving Repr

/-- The description of the cause in log lines. -/
def Cause.describe? : Cause → Option RawText
  | .none => Option.none
  | .absent => some "NoneType: None"
  | .raised fault => some fault.describe

structure Record where
  level : Level
  channel : String
  message : RawText
  fields : Option Value
  cause : Cause
  deriving Repr

/-- The channel of records that are sent to no channel by name. -/
def Channel.root : String := "root"

def Channel.gate : String := "postgres_mcp.lib.sql.query_validator"

def Channel.serverGate : String := "postgres_mcp.validator"

def Channel.database : String := "postgres_mcp.services.database_service"

def Channel.queryTool : String := "postgres_mcp.lib.tools.query"

def Channel.tableTool : String := "postgres_mcp.lib.tools.table"

def Channel.server : String := "postgres_mcp.cli.mcp_server"

def Channel.health : String := "postgres_mcp.services.health_api"

def Channel.stdio : String := "postgres_mcp.transport.stdio_server"

def Channel.http : String := "postgres_mcp.transport.http_server"

/-- Where and when a record was made. -/
structure Origin where
  path : String
  function : String
  line : Int
  /-- Milliseconds since the start of 1970. -/
  millis : Int
  deriving DecidableEq, Repr

/-- The format of log lines. -/
inductive Format where
  | json
  | plain
  deriving DecidableEq, Repr

/-- The name of the member that gives the line in the source. -/
def lineMember : String := "line"

def fileName (path : List Char) : List Char := (path.reverse.takeWhile (· != '/')).reverse

/-- A file name without its last extension. Points at the front start no extension. -/
def withoutExtension (name : List Char) : List Char :=
  match name.reverse.dropWhile (· != '.') with
  | _ :: stem => if stem.all (· == '.') then name else stem.reverse
  | [] => name

/-- The name of the module in which a record was made. -/
def Origin.module (origin : Origin) : String :=
  String.ofList (withoutExtension (fileName origin.path.toList))

/-- The character is neither printable ASCII nor the blank. -/
def beyondAscii (c : Char) : Bool := 0x7f ≤ c.toNat

/-- JSON log lines are on one line and ASCII only. -/
def jsonStyle : Json.Style where
  escapes := beyondAscii
  float := { logFloat with nan := "NaN", infinity := "Infinity" }
  opening := fun _ => []
  between := fun _ => [',', ' ']
  closing := fun _ => []

mutual

/-- The document for a field's value. What JSON does not know is written as its text. -/
def fieldDocument : Value → Json
  | .null => .null
  | .bool b => .bool b
  | .int n => .int n
  | .float x => .float x
  | .text s => .text s
  | .list items => .list (fieldDocuments items)
  | .object entries => .object (fieldMembers entries)
  | .bytes data => .text (Value.bytes data).display
  | .decimal d => .text d.text
  | .date d => .text d.iso
  | .time t => .text t.iso
  | .datetime t => .text (t.iso " ")
  | .duration d => .text d.words
  | .range lower upper brackets => .text (Value.range lower upper brackets).display

def fieldDocuments : List Value → List Json
  | [] => []
  | value :: rest => fieldDocument value :: fieldDocuments rest

def fieldMembers : List (String × Value) → List (String × Json)
  | [] => []
  | (key, value) :: rest => (key, fieldDocument value) :: fieldMembers rest

end

/-- The first and the last millisecond of the years with up to four digits. -/
def timestampBounds : Int × Int := (-62135596800000, 253402300799999)

/-- The time of a JSON line. -/
def timestamp (millis : Int) : Except Fault String :=
  if millis < timestampBounds.1 ∨ timestampBounds.2 < millis then
    .error (.plain .overflow "date value out of range")
  else .ok ((DateTime.ofEpochMillis millis).iso "T" ++ "+00:00")

def standardMembers (origin : Origin) (time : String) (record : Record) : List (String × Json) :=
  [("timestamp", .text time),
   ("level", .text record.level.name),
   ("logger", .text record.channel),
   ("message", .ofRaw record.message),
   ("module", .text origin.module),
   ("function", .text origin.function),
   (lineMember, .int origin.line)] ++
    (record.cause.describe?.map fun cause => ("exception", Json.ofRaw cause)).toList

/-- Put all members of the second list into the first, in order. -/
def overlayMembers (base later : List (String × Json)) : List (String × Json) :=
  later.foldl (fun members (key, value) => Json.put members key value) base

/-- All integers of a JSON line can be written. Fields may stand in the place of the line number. -/
def lineFits (origin : Origin) (fields : Entries) : Bool :=
  entriesFit fields && (Number.fits origin.line || (fields.find? lineMember).isSome)

def jsonLine (origin : Origin) (record : Record) : Except Fault String := do
  let members := standardMembers origin (← timestamp origin.millis) record
  let fields ← match record.fields with
    | none => pure []
    | some fields => Entries.ofValue fields
  if lineFits origin fields then
    return jsonStyle.text (.object (overlayMembers members (fieldMembers fields)))
  else throw .oversized

/-- The seconds from the start of 1970 that the clock of plain lines can count. -/
def secondsBound : Int := 0x8000000000000000

/-- The first year, and the last one, that the calendar of plain lines can hold. -/
def calendarYears : Int × Int := (-2147481748, 2147485547)

/-- The last year that can be written in a plain line. -/
def lastWrittenYear : Int := 2147483647

/-- The time of a plain line: the day, whose year is not filled up with zeros, the time up to the
second, a comma, and the milliseconds. -/
def plainTime (millis : Int) : Except Fault String :=
  let seconds := Int.fdiv millis 1000
  let year := yearOfDayNumber (Int.fdiv millis 86400000)
  if seconds < -secondsBound ∨ secondsBound ≤ seconds then
    .error (.plain .overflow "timestamp out of range for platform time_t")
  else if year < calendarYears.1 ∨ calendarYears.2 < year then
    .error (.plain .system "[Errno 75] Value too large for defined data type")
  else if lastWrittenYear < year then
    .error (.plain .overflow "signed integer is greater than maximum")
  else
    let second := DateTime.ofEpochMillis (seconds * 1000)
    .ok (toString year ++ "-" ++ padded 2 second.date.month ++ "-" ++ padded 2 second.date.day ++
      " " ++ second.time.isoBody ++ "," ++ padded 3 (Int.fmod millis 1000).toNat)

def withCause (line : RawText) (cause : Cause) : RawText :=
  match cause.describe? with
  | none => line
  | some text =>
      (if line.units.getLast? == some (.char '\n') then line else line ++ "\n") ++ text

/-- The bare line of a record: its message, with the cause on a line of its own. -/
def bareLine (record : Record) : RawText := withCause record.message record.cause

def withFields (line : RawText) (fields : Value) : Except Fault RawText :=
  if !fields.isGiven then .ok line
  else match fields with
    | .object entries =>
        if entriesFit entries then
          .ok (line ++ " | " ++
            joinWith " " (entries.map fun (key, value) => key ++ "=" ++ value.literal))
        else .error .oversized
    | value => .error (value.noAttribute "items")

def plainLine (origin : Origin) (record : Record) : Except Fault RawText := do
  let head := (← plainTime origin.millis) ++ " - " ++ record.channel ++ " - " ++
    record.level.name ++ " - " ++ record.message
  withFields (withCause head record.cause) (record.fields.getD .null)

def Format.line (format : Format) (origin : Origin) (record : Record) : Except Fault RawText :=
  match format with
  | .json => (jsonLine origin record).map .ofString
  | .plain => plainLine origin record

end QueryGate.Log
