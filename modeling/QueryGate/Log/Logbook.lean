import QueryGate.Log.Line
import QueryGate.Text.Lower

/-!
# The log

The log has one threshold and a list of outputs: standard error, and perhaps a file. Setting it
up replaces all outputs and sets the threshold; all outputs then share one format. A record
that is sent reaches every output exactly once if its level is at least the threshold and there is
a line for it in the format of the output. Standard error escapes the stray bytes of a line; the
file is UTF-8 and does not take a line that has any.

A log has no outputs before it is set up, and none after a set-up that fails at the level. So that
no warning is lost, the records from that level on are then written to standard error as they are.

Records are sent through plain senders or through senders that attach fixed fields to every
record. Along with a message anything may be given; it should be an object, in which the fields of
the record have a place of their own. A message below the threshold is dropped before what is given
with it is looked at.
-/

namespace QueryGate.Log

open QueryGate.Text

/-- A place that records are written to. -/
inductive Output where
  | console
  | file
  deriving DecidableEq, Repr

/-- The state of the log: its threshold, its outputs with their formats, and what was written. -/
structure Logbook where
  threshold : Nat
  outputs : List (Output × Format)
  console : String
  file : String
  deriving Repr

/-- The log before it is set up: everything passes the threshold, and there are no outputs. -/
def Logbook.initial : Logbook := ⟨10, [], "", ""⟩

/-- What a level name stands for. Two names of the same kind stand for something else. -/
inductive LevelName where
  | level (level : Level)
  | notLevel (kind : PlainKind) (message : String)
  deriving DecidableEq, Repr

/-- The names of levels, with those that stand for something else. -/
def levelNames : List (String × LevelName) :=
  [("CRITICAL", .level .critical), ("FATAL", .level .critical), ("ERROR", .level .error),
   ("WARNING", .level .warning), ("WARN", .level .warning), ("INFO", .level .info),
   ("DEBUG", .level .debug), ("NOTSET", .level .notSet),
   ("BASIC_FORMAT", .notLevel .value "Unknown level: '%(levelname)s:%(name)s:%(message)s'"),
   ("_STYLES", .notLevel .type
     ("Level not an integer or a valid string: \x7b'%': (<class 'logging.PercentStyle'>, " ++
      "'%(levelname)s:%(name)s:%(message)s'), '\x7b': (<class 'logging.StrFormatStyle'>, " ++
      "'\x7blevelname\x7d:\x7bname\x7d:\x7bmessage\x7d'), '$': " ++
      "(<class 'logging.StringTemplateStyle'>, " ++
      "'$\x7blevelname\x7d:$\x7bname\x7d:$\x7bmessage\x7d')\x7d"))]

/-- What a name in any case stands for; unknown names stand for the level of information. -/
def levelNamed (name : String) : LevelName :=
  (levelNames.lookup (String.ofList (upperName name.toList))).getD (.level .info)

/-- How the log is to be set up. The name of the level should be a text. -/
structure Setup where
  levelName : Value := .text "INFO"
  format : Format := .plain
  /-- The file that records are written to, besides standard error. -/
  file : Option RawText := none
  deriving Repr

def Setup.threshold (setup : Setup) : Except Fault Nat :=
  match setup.levelName with
  | .text name => match levelNamed name with
    | .level level => .ok level.number
    | .notLevel kind message => .error (.plain kind message)
  | value => .error (value.noAttribute "upper")

def Logbook.addOutput (book : Logbook) (output : Output) (format : Format) : Logbook :=
  { book with outputs := book.outputs ++ [(output, format)] }

/-- Set up the log on a disk. All outputs are removed first; then the threshold is set, and the
outputs are added. What was done before a fault remains. -/
def Logbook.setUp (book : Logbook) (disk : Disk) (setup : Setup) : Except Fault Unit × Logbook :=
  let cleared := { book with outputs := [] }
  match setup.threshold with
  | .error fault => (.error fault, cleared)
  | .ok threshold =>
      let book := { cleared with threshold := threshold }.addOutput .console setup.format
      match setup.file with
      | none => (.ok (), book)
      | some path => match disk.openForAppending path with
        | .ok () => (.ok (), book.addOutput .file setup.format)
        | .error fault => (.error (.file fault), book)

def Logbook.accepts (book : Logbook) (level : Level) : Bool := book.threshold ≤ level.number

def Logbook.append (book : Logbook) (line : RawText) : Output → Logbook
  | .console => { book with console := book.console ++ line.escaped ++ "\n" }
  | .file => match line.text? with
    | some text => { book with file := book.file ++ text ++ "\n" }
    | none => book

/-- Write a record to an output, if there is a line for it. -/
def Logbook.writeTo (book : Logbook) (origin : Origin) (record : Record) (output : Output)
    (format : Format) : Logbook :=
  match format.line origin record with
  | .ok line => book.append line output
  | .error _ => book

/-- The lowest level that is written where there are no outputs. -/
def unlostLevel : Level := .warning

/-- Write the bare line of a record to standard error, if its level is not to be lost. -/
def Logbook.writeBare (book : Logbook) (record : Record) : Logbook :=
  if unlostLevel.number ≤ record.level.number then book.append (bareLine record) .console else book

/-- Write a record to all outputs, if it passes the threshold. Where there are no outputs, only its
bare line may be written. -/
def Logbook.write (book : Logbook) (origin : Origin) (record : Record) : Logbook :=
  if !book.accepts record.level then book
  else if book.outputs.isEmpty then book.writeBare record
  else book.outputs.foldl
    (fun book (output, format) => book.writeTo origin record output format) book

/-- A sender of records on a channel. A sender with attached fields puts them on every record. -/
structure Sender where
  channel : String
  attached : Option Value
  deriving Repr

/-- A sender; without any fields to attach it is a plain one, and without a name it sends to the
root channel. -/
def Sender.make (name : String) (fields : Value) : Sender where
  channel := if name.isEmpty then Channel.root else name
  attached := if fields.isGiven then some fields else none

def Sender.attaches (sender : Sender) : Bool := sender.attached.isSome

def Sender.kindName (sender : Sender) : String :=
  if sender.attaches then "ExtraAdapter"
  else if sender.channel == Channel.root then "RootLogger"
  else "Logger"

/-- The words for sending a message, with the level and the cause of the record. -/
def sendWords : List (String × Level × Cause) :=
  [("debug", .debug, .none), ("info", .info, .none), ("warning", .warning, .none),
   ("warn", .warning, .none), ("error", .error, .none), ("exception", .error, .absent),
   ("critical", .critical, .none), ("fatal", .critical, .none)]

/-- The level and the cause that a word stands for. One word is for plain senders only. -/
def Sender.readWord (sender : Sender) (word : String) : Except Fault (Level × Cause) :=
  match sendWords.lookup word with
  | some meaning =>
      if sender.attaches && word == "fatal" then .error unknown else .ok meaning
  | none => .error unknown
where
  unknown : Fault :=
    .plain .attribute ("'" ++ sender.kindName ++ "' object has no attribute " ++ literal word)

/-- The key under which fields stand among other entries. -/
def fieldsKey : String := "extra_fields"

/-- What is given along with a message that has just fields. -/
def justFields (fields : Value) : Value := .object [(fieldsKey, fields)]

/-- Keys that a plain sender refuses, because they are parts of every record. -/
def reservedKeys : List String :=
  ["message", "asctime", "name", "msg", "args", "levelname", "levelno", "pathname", "filename",
   "module", "exc_info", "exc_text", "stack_info", "lineno", "funcName", "created", "msecs",
   "relativeCreated", "thread", "threadName", "processName", "process"]

/-- The fault of a key that a record has already, by the literal of the key. -/
def takenKey (key : String) : Fault :=
  .plain .key (literal ("Attempt to overwrite " ++ key ++ " in LogRecord"))

def position? : Value → Option Int
  | .int n => some n
  | .bool b => some (if b then 1 else 0)
  | _ => none

/-- The fault of a position outside a list or a byte string. -/
def outOfRange (whole : Value) : Fault :=
  .plain .index
    (match whole with
    | .list _ => "list index out of range"
    | _ => "index out of range")

def noPosition (whole key : Value) : Fault :=
  match key, whole with
  | .list _, _ | .object _, _ => key.noKey
  | .text name, _ =>
      if reservedKeys.contains name then takenKey (literal name)
      else .plain .type
        (match whole with
        | .text _ => "string indices must be integers, not 'str'"
        | _ => "list indices must be integers or slices, not str")
  | key, _ => .plain .type
      ("list indices must be integers or slices, not " ++ key.qualifiedKindName)

/-- Look up the keys that stand in a list, a text or a byte string in itself. Only positions are
found, and each only once. -/
def lookUpAll (whole : Value) (length : Nat) (seen : List Int) : List Value → Except Fault Unit
  | [] => .ok ()
  | key :: rest => match position? key with
    | none => .error (noPosition whole key)
    | some n =>
        if seen.contains n then .error (takenKey key.literal)
        else if -(length : Int) ≤ n ∧ n < length then lookUpAll whole length (n :: seen) rest
        else .error (outOfRange whole)

/-- The fields that a plain sender finds in what is given. It looks up every part of what is given
and refuses reserved keys. -/
def plainFields : Value → Except Fault (Option Value)
  | .null => .ok none
  | .object entries =>
      match (Entries.keys entries).find? reservedKeys.contains with
      | some key => .error (takenKey (literal key))
      | none => .ok (Entries.find? entries fieldsKey)
  | value => match value.parts? with
    | none => .error value.noParts
    | some parts => do
        lookUpAll value parts.length [] parts
        return none

/-- The fields of a sender that attaches some, together with those in what is given, which win.
Everything else that is given is passed over. -/
def attachedFields (attached given : Value) : Except Fault Entries := do
  let base ← Entries.ofValue attached
  if !given.isGiven then return base
  match given with
  | .object entries => match Entries.find? entries fieldsKey with
    | none => return base
    | some fields => return base.overlay (← Entries.ofValue fields)
  | value => throw (value.noAttribute "get")

def Sender.fields (sender : Sender) (given : Value) : Except Fault (Option Value) :=
  match sender.attached with
  | some attached => do return some (.object (← attachedFields attached given))
  | none => plainFields given

/-- A key with this name takes the place of what gives a record its message. -/
def messageKey : String := "getMessage"

/-- One message that is sent: the word for sending it, the message, and what is given along with
it, perhaps nothing. -/
structure Message where
  sender : Sender
  word : String
  message : RawText
  given : Value := .null
  deriving Repr

/-- The fault of a message that cannot be read from its record, because a plain sender put
something else in the place of what gives it. -/
def Message.fault? (message : Message) : Option Fault :=
  match message.given with
  | .object entries =>
      if message.sender.attaches then none
      else (Entries.find? entries messageKey).map fun value =>
        .plain .type ("'" ++ value.qualifiedKindName ++ "' object is not callable")
  | _ => none

/-- The record of a message, unless it is below the threshold. -/
def Logbook.recordOf (book : Logbook) (message : Message) : Except Fault (Option Record) := do
  let (level, cause) ← message.sender.readWord message.word
  if book.accepts level then
    let fields ← message.sender.fields message.given
    return some ⟨level, message.sender.channel, message.message, fields, cause⟩
  else return none

/-- Write the record of a message, unless its message cannot be read. -/
def Logbook.writeMessage (book : Logbook) (origin : Origin) (message : Message) (record : Record) :
    Logbook :=
  if message.fault?.isSome then book else book.write origin record

/-- Send messages one after the other, up to the first that fails; the records that were made
are returned in order. The origin belongs to all records. -/
def Logbook.sendAll (book : Logbook) (origin : Origin) :
    List Message → Except Fault Unit × List Record × Logbook
  | [] => (.ok (), [], book)
  | message :: rest => match book.recordOf message with
    | .error fault => (.error fault, [], book)
    | .ok none => book.sendAll origin rest
    | .ok (some record) =>
        let (result, records, book) :=
          (book.writeMessage origin message record).sendAll origin rest
        (result, record :: records, book)

end QueryGate.Log
