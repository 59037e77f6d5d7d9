import QueryGate.Log.Line

/-!
# The world and the actions on it

The program calls a database driver, a tool server, a web server, the clock and the operating
system. A `Script` holds the replies they will give, one queue for each kind of call; where a
queue is empty the call succeeds in its usual way. The `World` holds the script together with a
journal of the calls that were made, how each ended, and the log records that were sent. Pools are
numbered in the order in which they are opened, so that the journal shows which pool a call
belongs to.

An action runs on a state of its own and on the world. It ends with a result or with a fault,
and in both cases what it did to the state and to the world remains. Actions on one kind of
state can be run inside actions on another.
-/

namespace QueryGate

open QueryGate.Number QueryGate.Calendar QueryGate.Text

/-- A reply to a call: none, which stands for the usual result, or a result, or a fault. -/
abbrev Reply (α : Type) := Option (Except Fault α)

/-- The replies that the world will give, in order, for each kind of call. -/
structure Script where
  openPool : List (Reply Unit) := []
  checkOut : List (Reply Unit) := []
  giveBack : List (Reply Unit) := []
  closePool : List (Reply Unit) := []
  openCursor : List (Reply Unit) := []
  execute : List (Reply Unit) := []
  hasRows : List (Reply Bool) := []
  fetchOne : List (Reply Unit) := []
  fetchAll : List (Reply (List Value)) := []
  commit : List (Reply Unit) := []
  rollback : List (Reply Unit) := []
  serveTools : List (Reply Unit) := []
  serveHealth : List (Reply Unit) := []
  /-- Readings of the clock that measures how long queries take, in seconds. -/
  clock : List (Reply Double) := []
  /-- Readings of the calendar clock. -/
  now : List (Reply DateTime) := []

/-- A call that the program makes. -/
inductive Call where
  | openPool (parameters : Parameters)
  | checkOut (pool : Nat)
  | giveBack (pool : Nat)
  | closePool (pool : Nat)
  /-- Open a cursor, whose rows may be named by their columns. -/
  | openCursor (named : Bool)
  | execute (sql : String) (parameters : List String)
  /-- Ask whether the last statement has a result. -/
  | hasRows
  | fetchOne
  | fetchAll
  | closeCursor
  | commit
  | rollback
  | serveTools (parameters : Entries)
  | serveHealth (parameters : Entries)
  /-- Install the handler of a signal. -/
  | onSignal (number : Int)
  /-- Start a thread that serves the health service. -/
  | startThread (daemon : Bool) (allowWrites : Option Bool)
  deriving Repr

inductive Ending where
  | done
  | opened (pool : Nat)
  | answered (yes : Bool)
  | fetched (rows : List Value)
  | raised (fault : Fault)
  deriving Repr

/-- The call did not fail. -/
def Ending.succeeded : Ending → Bool
  | .raised _ => false
  | _ => true

/-- A call together with its ending. -/
structure Event where
  call : Call
  ending : Ending
  deriving Repr

/-- The world around the program. -/
structure World where
  environment : Environment := []
  disk : Disk := {}
  /-- The day and time that the calendar clock shows unless the script says otherwise. -/
  today : DateTime := DateTime.ofEpochMillis 0
  script : Script := {}
  /-- The calls that were made, in order. -/
  journal : List Event := []
  /-- The log records that were sent, in order. -/
  records : List Log.Record := []
  nextPool : Nat := 0

/-- A state of one part of the program together with the world. -/
structure Stage (σ : Type) where
  self : σ
  world : World

abbrev Act (σ : Type) := ExceptT Fault (StateM (Stage σ))

namespace Act

variable {σ τ α β : Type}

def start (act : Act σ α) (stage : Stage σ) : Except Fault α × Stage σ := act.run.run stage

def self : Act σ σ := do return (← get).self

def update (change : σ → σ) : Act σ Unit :=
  modify fun stage => { stage with self := change stage.self }

def world : Act σ World := do return (← get).world

def updateWorld (change : World → World) : Act σ Unit :=
  modify fun stage => { stage with world := change stage.world }

def enter (call : Call) (ending : Ending) : Act σ Unit :=
  updateWorld fun world => { world with journal := world.journal ++ [⟨call, ending⟩] }

/-- Run an action to its end and hand its fault on as a value. -/
def outcome (act : Act σ α) : Act σ (Except Fault α) :=
  ExceptT.mk fun stage =>
    let (result, stage) := act.start stage
    (.ok result, stage)

def ofExcept : Except Fault α → Act σ α
  | .ok value => return value
  | .error fault => throw fault

/-- Run an action, and a last action however the first ends. A fault of the last action wins. -/
def ensuring (act : Act σ α) (last : Act σ Unit) : Act σ α := do
  let result ← act.outcome
  last
  ofExcept result

def recover (act : Act σ α) (handle : Fault → Act σ α) : Act σ α := tryCatch act handle

/-- Run an action on another state, and return that state along with the result. A fault loses
the other state, but not what was done to the world. -/
def onOther (other : τ) (act : Act τ α) : Act σ (α × τ) :=
  ExceptT.mk fun stage =>
    let (result, inner) := act.start ⟨other, stage.world⟩
    (result.map (·, inner.self), ⟨stage.self, inner.world⟩)

/-- Run an action on a part of the state, which is put back however the action ends. -/
def onPart (part : τ) (putBack : τ → σ → σ) (act : Act τ α) : Act σ α :=
  ExceptT.mk fun stage =>
    let (result, inner) := act.start ⟨part, stage.world⟩
    (result, ⟨putBack inner.self stage.self, inner.world⟩)

def send (record : Log.Record) : Act σ Unit :=
  updateWorld fun world => { world with records := world.records ++ [record] }

def note (level : Log.Level) (channel : String) (message : RawText) : Act σ Unit :=
  send ⟨level, channel, message, none, .none⟩

def noteWith (level : Log.Level) (channel : String) (message : RawText) (fields : Entries) :
    Act σ Unit :=
  send ⟨level, channel, message, some (.object fields), .none⟩

/-- Make a call: its reply is taken from a queue of the script, and it is entered into the
journal. A call without a reply has its usual result. -/
def perform (call : Call) (usual : α) (ending : α → Ending)
    (queue : Script → List (Reply α)) (keep : List (Reply α) → Script → Script) : Act σ α := do
  let script := (← world).script
  updateWorld fun world => { world with script := keep (queue script).tail world.script }
  match (queue script).head?.join with
  | none => do enter call (ending usual); return usual
  | some (.ok value) => do enter call (ending value); return value
  | some (.error fault) => do enter call (.raised fault); throw fault

/-- The ending of a call that has no result. -/
def finished : Unit → Ending := fun _ => .done

def openPool (parameters : Parameters) : Act σ Nat := do
  let pool := (← world).nextPool
  perform (.openPool parameters) () (fun _ => .opened pool) (·.openPool)
    fun rest script => { script with openPool := rest }
  updateWorld fun world => { world with nextPool := pool + 1 }
  return pool

def checkOut (pool : Nat) : Act σ Unit :=
  perform (.checkOut pool) () finished (·.checkOut) fun rest script =>
    { script with checkOut := rest }

def giveBack (pool : Nat) : Act σ Unit :=
  perform (.giveBack pool) () finished (·.giveBack) fun rest script =>
    { script with giveBack := rest }

def closePool (pool : Nat) : Act σ Unit :=
  perform (.closePool pool) () finished (·.closePool) fun rest script =>
    { script with closePool := rest }

def openCursor (named : Bool) : Act σ Unit :=
  perform (.openCursor named) () finished (·.openCursor) fun rest script =>
    { script with openCursor := rest }

def closeCursor : Act σ Unit := enter .closeCursor .done

def executeWith (sql : String) (parameters : List String) : Act σ Unit :=
  perform (.execute sql parameters) () finished (·.execute) fun rest script =>
    { script with execute := rest }

def execute (sql : String) : Act σ Unit := executeWith sql []

/-- Whether the last statement has a result. -/
def hasRows : Act σ Bool :=
  perform .hasRows true .answered (·.hasRows) fun rest script => { script with hasRows := rest }

/-- Fetch a row and pass it over. -/
def fetchOne : Act σ Unit :=
  perform .fetchOne () finished (·.fetchOne) fun rest script => { script with fetchOne := rest }

def fetchAll : Act σ (List Value) :=
  perform .fetchAll [] .fetched (·.fetchAll) fun rest script => { script with fetchAll := rest }

def commit : Act σ Unit :=
  perform .commit () finished (·.commit) fun rest script => { script with commit := rest }

/-- Roll the transaction back. -/
def rollback : Act σ Unit :=
  perform .rollback () finished (·.rollback) fun rest script => { script with rollback := rest }

/-- Serve the tools until the server ends. -/
def serveTools (parameters : Entries) : Act σ Unit :=
  perform (.serveTools parameters) () finished (·.serveTools) fun rest script =>
    { script with serveTools := rest }

/-- Serve the health service until the server ends. -/
def serveHealth (parameters : Entries) : Act σ Unit :=
  perform (.serveHealth parameters) () finished (·.serveHealth) fun rest script =>
    { script with serveHealth := rest }

/-- Take a reading from a queue of the script; readings are not entered into the journal. -/
def reading (usual : α) (queue : Script → List (Reply α))
    (keep : List (Reply α) → Script → Script) : Act σ α := do
  let script := (← world).script
  updateWorld fun world => { world with script := keep (queue script).tail world.script }
  match (queue script).head?.join with
  | none => return usual
  | some (.ok value) => return value
  | some (.error fault) => throw fault

/-- Read the clock that measures how long queries take. -/
def readClock : Act σ Double :=
  reading Double.zero (·.clock) fun rest script => { script with clock := rest }

def readNow : Act σ DateTime := do
  let today := (← world).today
  reading today (·.now) fun rest script => { script with now := rest }

end Act

end QueryGate
