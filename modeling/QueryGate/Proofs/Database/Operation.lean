import QueryGate.Proofs.Database.Lookups
import QueryGate.Proofs.Database.Query

/-!
# The operations on a connection

Probes, queries and look-ups differ in what they pass to the cursor and in how they settle the
transaction. What they share is the shape of their calls: a connection is taken out, statements
are passed on at most one cursor, the transaction is settled, and the connection is given back.
-/

namespace QueryGate

/-- The call settles a transaction: by rolling it back, or by a commit if there may be one. -/
def Call.settles (commits : Bool) : Call → Bool
  | .commit => commits
  | .rollback => true
  | _ => false

namespace Service

open Behaviour

variable {α β : Type}

inductive Operation where
  | probe
  | query (sql : String) (readOnly : Bool)
  | tables
  | tableDetails (schema table : String)
  deriving Repr

namespace Operation

/-- Carry the operation out. Its rows are dropped. -/
def run : Operation → Action Unit
  | .probe => Service.probe
  | .query sql readOnly => do let _ ← Service.query sql readOnly
  | .tables => do let _ ← Service.tables
  | .tableDetails schema table => do let _ ← Service.tableDetails schema table

/-- Only queries are committed. -/
def commits : Operation → Bool
  | .query .. => true
  | _ => false

end Operation

inductive CursorCalls : List Event → Prop where
  | none : CursorCalls []
  | refused (named : Bool) (fault : Fault) : CursorCalls [⟨.openCursor named, .raised fault⟩]
  | used (named : Bool) {events : List Event}
      (hstatements : ∀ event ∈ events, event.call.isStatement = true) :
      CursorCalls (⟨.openCursor named, .done⟩ :: (events ++ [⟨.closeCursor, .done⟩]))

/-- First the calls on a cursor, and then the calls that settle the transaction. -/
inductive Works (commits : Bool) : List Event → Prop where
  | works {cursor ends : List Event} (hcursor : CursorCalls cursor)
      (hends : ∀ event ∈ ends, event.call.settles commits = true) : Works commits (cursor ++ ends)

inductive UsesConnection (commits : Bool) (s : Service) : List Event → Prop where
  | idle : UsesConnection commits s []
  | refused {pool : Nat} (hpool : s.pool = some pool) (fault : Fault) :
      UsesConnection commits s [⟨.checkOut pool, .raised fault⟩]
  | used {pool : Nat} (hpool : s.pool = some pool) {events : List Event}
      (work : Works commits events) (ending : Ending) :
      UsesConnection commits s (⟨.checkOut pool, .done⟩ :: (events ++ [⟨.giveBack pool, ending⟩]))

section

variable {commits : Bool} {s s' : Service} {events : List Event}

theorem CursorCalls.works (h : CursorCalls events) : Works commits events := by
  have hnone : ∀ event ∈ ([] : List Event), event.call.settles commits = true := by simp
  simpa using Works.works h hnone

theorem Works.append {more : List Event} (h : Works commits events)
    (hmore : ∀ event ∈ more, event.call.settles commits = true) :
    Works commits (events ++ more) := by
  obtain ⟨hcursor, hends⟩ := h
  rw [List.append_assoc]
  refine .works hcursor fun event hmem => ?_
  rcases List.mem_append.mp hmem with hmem | hmem
  · exact hends event hmem
  · exact hmore event hmem

theorem Works.rollback (h : Works commits events) (ending : Ending) :
    Works commits (events ++ [⟨.rollback, ending⟩]) :=
  h.append (by simp [Call.settles])

theorem UsesCursor.cursorCalls {named : Bool} {b : Behaviour Service α} {r : Except Fault α}
    (h : UsesCursor named b s events r s')
    (hb : ∀ events, b s events r s' → ∀ event ∈ events, event.call.isStatement = true) :
    CursorCalls events := by
  cases h with
  | refused fault => exact .refused named fault
  | used run => exact .used named (hb _ run)

theorem Connects.usesConnection {b : Behaviour Service α} {r : Except Fault α}
    (h : Connects b s events r s')
    (hb : ∀ events r s', b s events r s' → Works commits events) :
    UsesConnection commits s events := by
  cases h with
  | closed hpool => exact .idle
  | refused hpool fault => exact .refused hpool fault
  | used hpool run => exact .used hpool (hb _ _ _ run) _
  | stuck hpool run fault => exact .used hpool (hb _ _ _ run) _

theorem Reverts.works {report : Fault → Option Fault} {b : Behaviour Service α}
    {r : Except Fault α} (h : Reverts report b s events r s')
    (hb : ∀ events r, b s events r s' → Works commits events) : Works commits events :=
  h.calls_have hb fun _ ending works => works.rollback ending

theorem Looks.works {named : Bool} {b : Behaviour Service α} {r : Except Fault α}
    (h : Looks named b s events r s')
    (hb : ∀ s events r s', b s events r s' → Reads s events r s') : Works commits events := by
  have hcursor (events : List Event) (r : Except Fault α) (run : UsesCursor named b s events r s') :
      Works commits events := (run.cursorCalls fun _ h => (hb _ _ _ _ h).statements).works
  exact h.calls_have hcursor fun _ ending works => works.rollback ending

theorem isStatement_of_mem_executed {texts : List String} {event : Event}
    (h : event ∈ executed texts) : event.call.isStatement = true := by
  obtain ⟨text, -, rfl⟩ := List.mem_map.mp h
  rfl

theorem RunsStatements.isStatement {sql : String} {readOnly : Bool} {timeout : Int}
    {r : Except Fault (List Value)} (h : RunsStatements sql readOnly timeout s events r s') :
    ∀ event ∈ events, event.call.isStatement = true := by
  have hbehind {texts : List String} {more : List Event}
      (hmore : ∀ event ∈ more, event.call.isStatement = true) :
      ∀ event ∈ executed texts ++ more, event.call.isStatement = true := by
    intro event hmem
    rcases List.mem_append.mp hmem with hmem | hmem
    · exact isStatement_of_mem_executed hmem
    · exact hmore event hmem
  cases h with
  | setUpFailed before text after hsetUp fault => exact hbehind (by simp [Call.isStatement])
  | oversized hlarge => exact fun event hmem => isStatement_of_mem_executed hmem
  | failed fault => exact hbehind (by simp [Call.isStatement])
  | lost fault => exact hbehind (by simp [Call.isStatement])
  | empty => exact hbehind (by simp [Call.isStatement])
  | unfetched fault => exact hbehind (by simp [Call.isStatement])
  | fetched rows => exact hbehind (by simp [Call.isStatement])

theorem AttemptsQuery.works {sql : String} {readOnly : Bool} {timeout : Int}
    {r : Except Fault (List Entries)} (h : AttemptsQuery sql readOnly timeout s events r s') :
    Works true events := by
  have hcursor {events : List Event} {r : Except Fault (List Value)} {s' : Service}
      (run : UsesCursor true (RunsStatements sql readOnly timeout) s events r s') :
      Works true events := (run.cursorCalls fun _ h => h.isStatement).works
  cases h with
  | untimed fault => exact CursorCalls.none.works
  | stopped run => exact hcursor run
  | uncommitted run fault => exact (hcursor run).append (by simp [Call.settles])
  | committed run hrows => exact (hcursor run).append (by simp [Call.settles])

theorem RunsQuery.works {sql : String} {readOnly : Bool} {timeout : Int}
    {r : Except Fault (List Entries)} (h : RunsQuery sql readOnly timeout s events r s') :
    Works true events := by
  cases h with
  | settled attempt hr => exact attempt.works
  | rolledBack attempt => exact attempt.works.rollback _
  | stuck attempt fault => exact attempt.works.rollback _

end

theorem probe_usesConnection : probe.Shows fun s events _ _ => UsesConnection false s events := by
  refine probe_shows.mono fun s events r s' h => ?_
  cases h with
  | reached run => exact run.usesConnection fun _ _ _ h => h.works fun _ _ _ _ => id
  | unreached run hreport => exact run.usesConnection fun _ _ _ h => h.works fun _ _ _ _ => id
  | passed run hreport => exact run.usesConnection fun _ _ _ h => h.works fun _ _ _ _ => id

theorem query_usesConnection {sql : String} {readOnly : Bool} :
    (query sql readOnly).Shows fun s events _ _ => UsesConnection true s events :=
  query_shows.mono fun _ _ _ _ run => run.usesConnection fun _ _ _ h => h.works

theorem tables_usesConnection : tables.Shows fun s events _ _ => UsesConnection false s events :=
  tables_shows.mono fun _ _ _ _ run =>
    run.usesConnection fun _ _ _ h => h.works fun _ _ h => h.works fun _ _ _ _ => Fetches.reads

theorem tableDetails_usesConnection {schema table : String} :
    (tableDetails schema table).Shows fun s events _ _ => UsesConnection false s events := by
  refine tableDetails_shows.mono fun s events r s' h => ?_
  cases h with
  | unnamed hname message => exact .idle
  | unquotable hquery => exact .idle
  | looked hschema htable hquery run =>
    exact run.usesConnection fun _ _ _ h => h.works fun _ _ h => h.works fun _ _ _ _ =>
      ReadsTable.reads

namespace Operation

theorem showsBy_drop {τ : Type} {view : Stage Service → τ} {act : Action α} {b : Behaviour τ α}
    (h : act.ShowsBy view b) :
    (do let _ ← act : Action Unit).ShowsBy view fun s events r s' =>
      ∃ found, b s events found s' ∧ r = found.map fun _ => () := by
  refine (h.bind fun _ => Act.ShowsBy.pure).mono ?_
  intro s events r s' hb
  cases hb with
  | stopped run => exact ⟨_, run, rfl⟩
  | continued run next =>
    obtain ⟨rfl, rfl, rfl⟩ := next
    exact ⟨_, by simpa using run, rfl⟩

/-- Every operation uses at most one connection, and that in one way. -/
theorem usesConnection (operation : Operation) :
    operation.run.Shows fun s events _ _ => UsesConnection operation.commits s events := by
  have hdrop {α : Type} {act : Action α} {commits : Bool}
      (h : act.ShowsBy Stage.self fun s events _ _ => UsesConnection commits s events) :
      (do let _ ← act : Action Unit).ShowsBy Stage.self fun s events _ _ =>
        UsesConnection commits s events :=
    (showsBy_drop h).mono fun _ _ _ _ ⟨_, run, _⟩ => run
  cases operation with
  | probe => exact probe_usesConnection
  | query sql readOnly => exact hdrop query_usesConnection
  | tables => exact hdrop tables_usesConnection
  | tableDetails schema table => exact hdrop tableDetails_usesConnection

end Operation

end Service

end QueryGate
