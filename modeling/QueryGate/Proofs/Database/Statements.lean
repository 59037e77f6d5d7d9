import Mathlib.Data.List.Basic
import QueryGate.Proofs.Database.Query

/-!
# The statements that are passed to the cursor

Whatever the driver replies, a query passes the statements of its set-up and then its text, each
once and without parameters, up to the first failure. The text is passed right behind the set-up,
all of which returned; nothing else is passed before it or after it.
-/

namespace QueryGate

/-- The statement that an event passes to the cursor, with its parameters. -/
def Event.statement? (event : Event) : Option (String × List String) :=
  match event.call with
  | .execute sql parameters => some (sql, parameters)
  | _ => none

/-- The statements that events pass to the cursor, in order. -/
def passedStatements (events : List Event) : List (String × List String) :=
  events.filterMap Event.statement?

@[simp] theorem passedStatements_nil : passedStatements [] = [] := rfl

@[simp] theorem passedStatements_append (events more : List Event) :
    passedStatements (events ++ more) = passedStatements events ++ passedStatements more :=
  List.filterMap_append

@[simp] theorem passedStatements_execute (sql : String) (parameters : List String)
    (ending : Ending) (events : List Event) :
    passedStatements (⟨.execute sql parameters, ending⟩ :: events) =
      (sql, parameters) :: passedStatements events := rfl

theorem passedStatements_cons {event : Event} (h : event.statement? = none) (events : List Event) :
    passedStatements (event :: events) = passedStatements events := by
  simp [passedStatements, h]

theorem mem_passedStatements {sql : String} {parameters : List String} {ending : Ending}
    {events : List Event} (h : ⟨.execute sql parameters, ending⟩ ∈ events) :
    (sql, parameters) ∈ passedStatements events :=
  List.mem_filterMap.mpr ⟨_, h, rfl⟩

namespace Service

/-- Texts as statements without parameters. -/
def bare (texts : List String) : List (String × List String) := texts.map fun text => (text, [])

@[simp] theorem passedStatements_executed (texts : List String) :
    passedStatements (executed texts) = bare texts := by
  simp [passedStatements, executed, bare, Function.comp_def, Event.statement?]

/-- Of the events, some pass statements of the set-up only; or the given events come first, then
the text is passed, and no statement after it. -/
inductive PassesText (sql : String) (texts : List String) (front : List Event) :
    List Event → Prop where
  | never {events : List Event} (h : passedStatements events <+: bare texts) :
      PassesText sql texts front events
  | passed (ending : Ending) {after : List Event} (h : passedStatements after = []) :
      PassesText sql texts front (front ++ ⟨.execute sql [], ending⟩ :: after)

section

variable {sql : String} {readOnly : Bool} {timeout : Int} {s s' : Service} {events : List Event}

theorem PassesText.append {texts : List String} {front more : List Event}
    (h : PassesText sql texts front events) (hmore : passedStatements more = []) :
    PassesText sql texts front (events ++ more) := by
  cases h with
  | never h => exact .never (by simpa [hmore] using h)
  | passed ending h => simpa using PassesText.passed ending (by simp [h, hmore])

theorem PassesText.cons {texts : List String} {front : List Event} {event : Event}
    (h : PassesText sql texts front events) (hevent : event.statement? = none) :
    PassesText sql texts (event :: front) (event :: events) := by
  cases h with
  | never h => exact .never (by rwa [passedStatements_cons hevent])
  | passed ending h => exact .passed ending h

theorem RunsStatements.passesText {r : Except Fault (List Value)}
    (h : RunsStatements sql readOnly timeout s events r s') :
    PassesText sql (setUp readOnly timeout) (executed (setUp readOnly timeout)) events := by
  cases h with
  | setUpFailed before text after hsetUp fault =>
    exact .never ⟨bare after, by simp [hsetUp, bare]⟩
  | oversized hlarge => exact .never ⟨bare [timeoutText timeout], by simp [setUp, bare]⟩
  | failed fault => exact .passed _ rfl
  | lost fault => exact .passed _ rfl
  | empty => exact .passed _ rfl
  | unfetched fault => exact .passed _ rfl
  | fetched rows => exact .passed _ rfl

/-- The calls before the text of a query on a cursor. -/
def cursorFront (readOnly : Bool) (timeout : Int) : List Event :=
  ⟨.openCursor true, .done⟩ :: executed (setUp readOnly timeout)

theorem UsesCursor.passesText {r : Except Fault (List Value)}
    (h : UsesCursor true (RunsStatements sql readOnly timeout) s events r s') :
    PassesText sql (setUp readOnly timeout) (cursorFront readOnly timeout) events := by
  cases h with
  | refused fault => exact .never List.nil_prefix
  | used run => exact (run.passesText.append rfl).cons rfl

theorem RunsQuery.passesText {r : Except Fault (List Entries)}
    (h : RunsQuery sql readOnly timeout s events r s') :
    PassesText sql (setUp readOnly timeout) (cursorFront readOnly timeout) events := by
  have hattempt {events : List Event} {r : Except Fault (List Entries)}
      (attempt : AttemptsQuery sql readOnly timeout s events r s') :
      PassesText sql (setUp readOnly timeout) (cursorFront readOnly timeout) events := by
    cases attempt with
    | untimed fault => exact .never List.nil_prefix
    | stopped run => exact run.passesText
    | uncommitted run fault => exact run.passesText.append rfl
    | committed run hrows => exact run.passesText.append rfl
  cases h with
  | settled attempt hr => exact hattempt attempt
  | rolledBack attempt => exact (hattempt attempt).append rfl
  | stuck attempt fault => exact (hattempt attempt).append rfl

theorem Connects.passesText {r : Except Fault (List Entries)}
    (h : Connects (RunsQuery sql readOnly timeout) s events r s') :
    passedStatements events = [] ∨ ∃ pool, s.pool = some pool ∧
      PassesText sql (setUp readOnly timeout)
        (⟨.checkOut pool, .done⟩ :: cursorFront readOnly timeout) events := by
  cases h with
  | closed hpool => exact .inl rfl
  | refused hpool fault => exact .inl rfl
  | used hpool run => exact .inr ⟨_, hpool, (run.passesText.append rfl).cons rfl⟩
  | stuck hpool run fault => exact .inr ⟨_, hpool, (run.passesText.append rfl).cons rfl⟩

end

/-- The text is passed at most once and as it is, on a connection of the pool, right behind the
given statements, all of which returned. Apart from these nothing is passed to the cursor. -/
structure PassesBehind (sql : String) (texts : List String) (s : Service) (events : List Event) :
    Prop where
  statements : passedStatements events <+: bare (texts ++ [sql])
  once : (passedStatements events).countP (fun statement => statement.1 == sql) ≤ 1
  behind : ∀ before parameters ending after,
    events = before ++ ⟨.execute sql parameters, ending⟩ :: after →
      parameters = [] ∧ ∃ pool, s.pool = some pool ∧
        before = ⟨.checkOut pool, .done⟩ :: ⟨.openCursor true, .done⟩ :: executed texts

section

variable {sql : String} {texts : List String} {s : Service} {events : List Event}

theorem PassesBehind.of_silent (h : passedStatements events = []) :
    PassesBehind sql texts s events where
  statements := by simp [h]
  once := by simp [h]
  behind := by
    rintro before parameters ending after rfl
    simp at h

private theorem notMem_bare (hsql : sql ∉ texts) (parameters : List String) :
    (sql, parameters) ∉ bare texts := by
  intro hmem
  obtain ⟨text, htext, heq⟩ := List.mem_map.mp hmem
  cases heq
  exact hsql htext

/-- Among the statements of the set-up and the text, the text stands once. -/
private theorem countP_le_one {statements : List (String × List String)} (hsql : sql ∉ texts)
    (h : statements <+: bare (texts ++ [sql])) :
    statements.countP (fun statement => statement.1 == sql) ≤ 1 := by
  have hzero : (bare texts).countP (fun statement => statement.1 == sql) = 0 := by
    rw [List.countP_eq_zero]
    rintro ⟨text, parameters⟩ hmem heq
    obtain rfl : text = sql := beq_iff_eq.mp heq
    exact notMem_bare hsql parameters hmem
  calc statements.countP (fun statement => statement.1 == sql)
      ≤ (bare (texts ++ [sql])).countP fun statement => statement.1 == sql :=
        h.sublist.countP_le
    _ = 1 := by simpa [bare] using hzero

private theorem append_passes (front : List Event) (ending : Ending) {after : List Event}
    (hafter : passedStatements after = []) :
    passedStatements (front ++ ⟨.execute sql [], ending⟩ :: after) =
      passedStatements front ++ [(sql, [])] := by
  simp [hafter]

/-- The calls before the text of a query. -/
private def front (pool : Nat) (texts : List String) : List Event :=
  ⟨.checkOut pool, .done⟩ :: ⟨.openCursor true, .done⟩ :: executed texts

private theorem passedStatements_front (pool : Nat) (texts : List String) :
    passedStatements (front pool texts) = bare texts := by
  rw [front, passedStatements_cons rfl, passedStatements_cons rfl, passedStatements_executed]

theorem PassesText.passesBehind {pool : Nat} (hpool : s.pool = some pool) (hsql : sql ∉ texts)
    (h : PassesText sql texts (front pool texts) events) : PassesBehind sql texts s events := by
  have hother := notMem_bare hsql
  cases h with
  | never h =>
    have hstatements := h.trans (List.prefix_append (bare texts) (bare [sql]))
    rw [bare, bare, ← List.map_append] at hstatements
    refine ⟨hstatements, countP_le_one hsql hstatements, ?_⟩
    rintro before parameters ending after rfl
    exact absurd (h.mem (by simp)) (hother parameters)
  | @passed ending after hafter =>
    have hstatements : passedStatements (front pool texts ++ ⟨.execute sql [], ending⟩ :: after) <+:
        bare (texts ++ [sql]) := by
      rw [append_passes _ _ hafter, passedStatements_front]
      simp [bare]
    refine ⟨hstatements, countP_le_one hsql hstatements, ?_⟩
    intro before parameters ending' after' hevents
    -- The text is passed neither by the calls before it nor by those after it.
    have hbefore : ⟨.execute sql parameters, ending'⟩ ∉ front pool texts := fun hmem =>
      hother parameters (passedStatements_front pool texts ▸ mem_passedStatements hmem)
    have hrest : ⟨.execute sql parameters, ending'⟩ ∉ after := fun hmem => by
      simpa [hafter] using mem_passedStatements hmem
    obtain ⟨rfl, hevent, rfl⟩ := (List.append_cons_inj_of_notMem hbefore hrest).mp hevents
    cases hevent
    exact ⟨rfl, pool, hpool, rfl⟩

/-- A query whose text is not one of its set-up passes its text right behind the set-up. -/
theorem Connects.passesBehind {readOnly : Bool} {timeout : Int} {r : Except Fault (List Entries)}
    {s' : Service} (hsql : sql ∉ setUp readOnly timeout)
    (h : Connects (RunsQuery sql readOnly timeout) s events r s') :
    PassesBehind sql (setUp readOnly timeout) s events := by
  rcases h.passesText with hsilent | ⟨pool, hpool, hpasses⟩
  · exact .of_silent hsilent
  · exact hpasses.passesBehind hpool hsql

end

end Service

end QueryGate
