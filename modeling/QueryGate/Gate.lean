import QueryGate.Sql.Statement
import QueryGate.Sql.Suspicion
import QueryGate.World

/-!
# The gate

The gate decides whether a query may run. A query that is blank is refused. Where writes are not
allowed, so is a query one of whose statements is a write; the first such statement is reported
with its position, counted from one. Suspicious patterns are logged and never change a verdict.
-/

namespace QueryGate

open QueryGate.Text QueryGate.Sql

/-- A gate: its policy on writes, and the channel of its log records. -/
structure Gate where
  allowWrites : Bool
  channel : String
  deriving DecidableEq, Repr

/-- Why a query is refused. -/
inductive Refusal where
  | emptyQuery
  | writesDisabled (statement : String) (position : Nat)
  deriving DecidableEq, Repr

def Refusal.error : Refusal → ServiceError
  | .emptyQuery => .refused "Query cannot be empty" none none
  | .writesDisabled statement position =>
      .refused "Write operations are disabled. Consult a human to enable this." (some statement)
        (some position)

/-- The first write among statements, with its position; the first statement has the given
position. -/
def firstWrite (position : Nat) : List String → Option (String × Nat)
  | [] => none
  | statement :: rest =>
      if isWrite statement then some (statement, position) else firstWrite (position + 1) rest

namespace Gate

def judge (gate : Gate) (query : String) : Except Refusal Unit :=
  if allBlank query then .error .emptyQuery
  else if gate.allowWrites then .ok ()
  else match firstWrite 1 (split query) with
    | some (statement, position) => .error (.writesDisabled statement position)
    | none => .ok ()

/-- The warnings about the suspicious patterns of a query. -/
def warnings (gate : Gate) (query : String) : List Log.Record :=
  (findSuspicious query).map fun pattern =>
    ⟨.warning, gate.channel, "Suspicious SQL pattern detected",
      some (.object [("pattern", .text pattern), ("query", .text (firstChars 100 query))]), .none⟩

def passed (gate : Gate) (query : String) : Log.Record :=
  ⟨.debug, gate.channel, "Query validated successfully",
    some (.object
      [("query_length", .int query.length), ("allow_write_ops", .bool gate.allowWrites)]), .none⟩

/-- The log records of a judgement. Nothing is logged for a blank query. -/
def trail (gate : Gate) (query : String) : List Log.Record :=
  match gate.judge query with
  | .error .emptyQuery => []
  | .error (.writesDisabled ..) => gate.warnings query
  | .ok () => gate.warnings query ++ [gate.passed query]

/-- Judge a query, log the trail, and fail if the query is refused. -/
def check {σ : Type} (gate : Gate) (query : String) : Act σ Unit := do
  (gate.trail query).forM Act.send
  match gate.judge query with
  | .ok () => return ()
  | .error refusal => throw (.service refusal.error)

end Gate

end QueryGate
