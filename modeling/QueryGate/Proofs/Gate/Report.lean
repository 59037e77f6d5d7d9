import Mathlib.Data.List.Forall2
import Mathlib.Order.Bounds.Basic
import QueryGate.Gate
import QueryGate.Proofs.Sql.Padding
import QueryGate.Proofs.World.Clock

/-!
# The verdict on a query and its report

A check sends the trail of its query and then ends as the verdict says; it does nothing else. The
gate that allows no writes accepts exactly the queries that are not blank and whose stretches all
pass. The statement that it refuses is the first write.

A check says three things at once: how it ends, which statement it blames, and what it writes to
the log. A blank query is refused in silence. For any other query the log gets a warning for each
suspicious pattern, and only then the verdict falls: the first write is blamed, or the query is
confirmed with one more record. The warnings have no part in the verdict.
-/

namespace QueryGate

open QueryGate.Text QueryGate.Sql

variable {σ : Type}

theorem firstWrite_eq_none_iff (position : Nat) {statements : List String} :
    firstWrite position statements = none ↔
      ∀ statement ∈ statements, isWrite statement = false := by
  induction statements generalizing position with
  | nil => simp [firstWrite]
  | cons statement rest ih =>
    cases hwrite : isWrite statement <;> simp [firstWrite, hwrite, ih]

/-- The reported position is that of the first write, counted on from the given position. -/
theorem firstWrite_of_exists {statements : List String}
    (h : ∃ statement ∈ statements, isWrite statement = true) (position : Nat) :
    ∃ statement,
      firstWrite position statements = some (statement, position + statements.findIdx isWrite) ∧
        statements[statements.findIdx isWrite]? = some statement := by
  induction statements generalizing position with
  | nil => simp at h
  | cons statement rest ih =>
    cases hwrite : isWrite statement with
    | true => exact ⟨statement, by simp [firstWrite, hwrite, List.findIdx_cons]⟩
    | false =>
      have hrest : ∃ statement ∈ rest, isWrite statement = true := by simpa [hwrite] using h
      obtain ⟨first, hfirst, hindex⟩ := ih hrest (position + 1)
      refine ⟨first, ?_, by simpa [List.findIdx_cons, hwrite] using hindex⟩
      have hindex :
          position + (rest.findIdx isWrite + 1) = position + 1 + rest.findIdx isWrite := by
        omega
      simp [firstWrite, hwrite, List.findIdx_cons, hfirst, hindex]

namespace Gate

def ending (gate : Gate) (query : String) : Except Fault Unit :=
  match gate.judge query with
  | .ok () => .ok ()
  | .error refusal => .error (.service refusal.error)

/-- A check sends its trail and changes nothing else. -/
theorem start_check (gate : Gate) (query : String) (stage : Stage σ) :
    (gate.check query).start stage =
      (gate.ending query, ⟨stage.self,
        { stage.world with records := stage.world.records ++ gate.trail query }⟩) := by
  rw [check, Act.start_bind, Act.start_forM_send, ending]
  cases gate.judge query <;> rfl

theorem check_shows {gate : Gate} {query : String} :
    (gate.check query : Act σ Unit).Shows (Behaviour.ends (gate.ending query)) := by
  intro stage
  rw [start_check]
  exact ⟨[], by simp, rfl, rfl, rfl⟩

theorem check_keepsClock {gate : Gate} {query : String} :
    (gate.check query : Act σ Unit).KeepsStage Stage.clock := by
  intro stage
  rw [start_check]
  rfl

theorem ending_eq_ok_iff {gate : Gate} {query : String} :
    gate.ending query = .ok () ↔ gate.judge query = .ok () := by
  rw [ending]
  cases gate.judge query <;> simp

theorem judge_eq_ok_iff {gate : Gate} {query : String} (hgate : gate.allowWrites = false) :
    gate.judge query = .ok () ↔
      allBlank query = false ∧ ∀ statement ∈ split query, isWrite statement = false := by
  rw [judge, hgate, ← firstWrite_eq_none_iff 1]
  cases allBlank query with
  | true => simp
  | false => cases firstWrite 1 (split query) <;> simp

theorem judge_ne_ok_iff {gate : Gate} {query : String} (hgate : gate.allowWrites = false) :
    gate.judge query ≠ .ok () ↔
      allBlank query = true ∨ ∃ statement ∈ split query, isWrite statement = true := by
  rw [ne_eq, judge_eq_ok_iff hgate]
  simp only [not_and_or, not_forall, Bool.not_eq_false, exists_prop]

/-- A refusal names the first write with its position, unless the query is blank. -/
theorem judge_eq_error_cases {gate : Gate} {query : String} {refusal : Refusal}
    (h : gate.judge query = .error refusal) :
    (allBlank query = true ∧ refusal = .emptyQuery) ∨
      (allBlank query = false ∧ ∃ statement,
        refusal = .writesDisabled statement (1 + (split query).findIdx isWrite) ∧
          (split query)[(split query).findIdx isWrite]? = some statement) := by
  rw [judge] at h
  cases hblank : allBlank query with
  | true => exact .inl ⟨rfl, by simpa [hblank] using h.symm⟩
  | false =>
    have hgate : gate.allowWrites = false := by
      cases hallow : gate.allowWrites with
      | true => simp [hblank, hallow] at h
      | false => rfl
    have hnone : firstWrite 1 (split query) ≠ none := by
      intro hnone
      simp [hblank, hnone] at h
    have hwrite : ∃ statement ∈ split query, isWrite statement = true := by
      simpa [firstWrite_eq_none_iff] using hnone
    obtain ⟨statement, hfirst, hindex⟩ := firstWrite_of_exists hwrite 1
    have hrefusal : Refusal.writesDisabled statement (1 + (split query).findIdx isWrite) =
        refusal := by simpa [hblank, hgate, hfirst] using h
    exact .inr ⟨rfl, statement, hrefusal.symm, hindex⟩

/-- The gate that allows no writes accepts a query exactly if the query has a character that is
not blank and all of its stretches pass. Hence no stretch of an accepted query is led by a write
word. -/
theorem readOnly_check_returns_iff (channel query : String) (stage : Stage σ) :
    ((((Gate.mk false channel).check query).start stage).1 = .ok () ↔
      (∃ c ∈ query.toList, isBlank c = false) ∧
        ∀ stretch ∈ pieces query.toList, Passes stretch) ∧
    ((((Gate.mk false channel).check query).start stage).1 = .ok () →
      ∀ stretch ∈ pieces query.toList, ∀ padding rest, Opens stretch padding rest →
        String.ofList (lower (rest.takeWhile isWord)) ∉ writeWords) := by
  have hiff : (((Gate.mk false channel).check query).start stage).1 = .ok () ↔
      (∃ c ∈ query.toList, isBlank c = false) ∧
        ∀ stretch ∈ pieces query.toList, Passes stretch := by
    rw [start_check, ending_eq_ok_iff, judge_eq_ok_iff rfl, split_reads_iff, ← Bool.not_eq_true,
      allBlank_iff]
    simp [Blank]
  refine ⟨hiff, ?_⟩
  intro haccepted stretch hstretch padding rest hopens
  exact ((hiff.mp haccepted).2 stretch hstretch).lead_notMem_writeWords hopens

/-- The positions of the writes among statements, counted from one. -/
def writePositions (statements : List String) : Set Nat :=
  {position | ∃ index statement, position = index + 1 ∧ statements[index]? = some statement ∧
    isWrite statement = true}

theorem writePositions_eq_empty_iff {statements : List String} :
    writePositions statements = ∅ ↔ ∀ statement ∈ statements, isWrite statement = false := by
  constructor
  · intro hnone statement hmem
    obtain ⟨index, hindex⟩ := List.getElem?_of_mem hmem
    cases hwrite : isWrite statement with
    | false => rfl
    | true =>
      have hposition : index + 1 ∈ writePositions statements :=
        ⟨index, statement, rfl, hindex, hwrite⟩
      rw [hnone] at hposition
      exact absurd hposition (Set.notMem_empty _)
  · intro hreads
    apply Set.eq_empty_of_forall_notMem
    rintro position ⟨index, statement, -, hindex, hwrite⟩
    rw [hreads statement (List.mem_of_getElem? hindex)] at hwrite
    cases hwrite

/-- No write stands before the first index at which a write is found. -/
theorem isLeast_writePositions {statements : List String} {statement : String}
    (h : statements[statements.findIdx isWrite]? = some statement) :
    IsLeast (writePositions statements) (statements.findIdx isWrite + 1) := by
  obtain ⟨hlength, hstatement⟩ := List.getElem?_eq_some_iff.mp h
  constructor
  · have hwrite : isWrite statements[statements.findIdx isWrite] = true :=
      List.findIdx_getElem
    rw [hstatement] at hwrite
    exact ⟨_, statement, rfl, h, hwrite⟩
  · rintro _ ⟨index, later, rfl, hindex, hwrite⟩
    by_contra hless
    have hbefore : index < statements.findIdx isWrite := by omega
    obtain ⟨hin, hlater⟩ := List.getElem?_eq_some_iff.mp hindex
    have hreads : isWrite statements[index] = false := List.not_of_lt_findIdx hbefore
    rw [hlater, hwrite] at hreads
    cases hreads

/-- The record warns of one pattern that the query shows; of a long query it shows the front. -/
structure Warns (gate : Gate) (query pattern : String) (record : Log.Record) : Prop where
  level : record.level = .warning
  channel : record.channel = gate.channel
  message : record.message = "Suspicious SQL pattern detected"
  fields : record.fields = some (.object
    [("pattern", .text pattern), ("query", .text (String.ofList (query.toList.take 100)))])
  cause : record.cause = .none

/-- The record confirms that the query passed, with its length and the policy that it passed
under. -/
structure Confirms (gate : Gate) (query : String) (record : Log.Record) : Prop where
  level : record.level = .debug
  channel : record.channel = gate.channel
  message : record.message = "Query validated successfully"
  fields : record.fields = some (.object
    [("query_length", .int query.toList.length), ("allow_write_ops", .bool gate.allowWrites)])
  cause : record.cause = .none

theorem warnings_warn (gate : Gate) (query : String) :
    List.Forall₂ (gate.Warns query) (findSuspicious query) (gate.warnings query) := by
  rw [warnings, List.forall₂_map_right_iff, List.forall₂_same]
  intro pattern _
  exact ⟨rfl, rfl, rfl, rfl, rfl⟩

theorem passed_confirms (gate : Gate) (query : String) :
    gate.Confirms query (gate.passed query) := ⟨rfl, rfl, rfl, rfl, rfl⟩

/-- How a check of a query ends, and the records that it sends, in order. -/
inductive Reports (gate : Gate) (query : String) : Except Fault Unit → List Log.Record → Prop where
  | blank (hblank : Blank query.toList) :
      Reports gate query (.error (.service (.refused "Query cannot be empty" none none))) []
  /-- The first write is blamed, with its position. -/
  | refused {warnings : List Log.Record} {statement : String} {position : Nat}
      (hinked : ¬ Blank query.toList)
      (hwarnings : List.Forall₂ (gate.Warns query) (findSuspicious query) warnings)
      (hpolicy : gate.allowWrites = false)
      (hposition : IsLeast (writePositions (split query)) position)
      (hstatement : (split query)[position - 1]? = some statement) :
      Reports gate query
        (.error (.service (.refused
          "Write operations are disabled. Consult a human to enable this." (some statement)
          (some position)))) warnings
  | accepted {warnings : List Log.Record} {confirmation : Log.Record}
      (hinked : ¬ Blank query.toList)
      (hwarnings : List.Forall₂ (gate.Warns query) (findSuspicious query) warnings)
      (hallowed : gate.allowWrites = true ∨ writePositions (split query) = ∅)
      (hconfirmation : gate.Confirms query confirmation) :
      Reports gate query (.ok ()) (warnings ++ [confirmation])

theorem not_blank_of_allBlank {query : String} (h : allBlank query = false) :
    ¬ Blank query.toList := by
  rw [← allBlank_iff, h]
  exact Bool.false_ne_true

theorem ending_reports (gate : Gate) (query : String) :
    gate.Reports query (gate.ending query) (gate.trail query) := by
  have hwarnings := gate.warnings_warn query
  rw [ending, trail]
  cases hjudged : gate.judge query with
  | ok _ =>
    rw [judge] at hjudged
    cases hblank : allBlank query with
    | true => simp [hblank] at hjudged
    | false =>
      refine .accepted (not_blank_of_allBlank hblank) hwarnings ?_ (gate.passed_confirms query)
      cases hallow : gate.allowWrites with
      | true => exact .inl rfl
      | false =>
        right
        rw [writePositions_eq_empty_iff, ← firstWrite_eq_none_iff 1]
        cases hfirst : firstWrite 1 (split query) with
        | none => rfl
        | some found => simp [hblank, hallow, hfirst] at hjudged
  | error refusal =>
    rcases judge_eq_error_cases hjudged with ⟨hblank, rfl⟩ | ⟨hblank, statement, rfl, hstatement⟩
    · exact .blank (allBlank_iff.mp hblank)
    · have hpolicy : gate.allowWrites = false := by
        cases hallow : gate.allowWrites with
        | false => rfl
        | true => simp [judge, hblank, hallow] at hjudged
      rw [Nat.add_comm]
      exact .refused (not_blank_of_allBlank hblank) hwarnings hpolicy
        (isLeast_writePositions hstatement) hstatement

/-- A report ends well exactly if the query is not blank and is allowed to write or has no write.
The suspicious patterns do not matter. -/
theorem Reports.eq_ok_iff {gate : Gate} {query : String} {result : Except Fault Unit}
    {records : List Log.Record} (h : gate.Reports query result records) :
    result = .ok () ↔ ¬ Blank query.toList ∧
      (gate.allowWrites = true ∨ ∀ statement ∈ split query, isWrite statement = false) := by
  rw [← writePositions_eq_empty_iff]
  cases h with
  | blank hblank => simp [hblank]
  | refused hinked hwarnings hpolicy hposition hstatement =>
    have hsome : writePositions (split query) ≠ ∅ := Set.Nonempty.ne_empty ⟨_, hposition.1⟩
    simp [hpolicy, hsome]
  | accepted hinked hwarnings hallowed hconfirmation => simp [hinked, hallowed]

/-- For every query and under both policies, a check changes nothing but the log. It ends and
writes as reported: nothing for a blank query; otherwise the warnings, in the order of the patterns,
and then either the refusal of the least position of a write and no more, or one confirmation. Which
of them it is depends on the policy and on the statements alone. -/
theorem check_reports (gate : Gate) (query : String) (stage : Stage σ) :
    ∃ result records,
      (gate.check query).start stage =
        (result, ⟨stage.self,
          { stage.world with records := stage.world.records ++ records }⟩) ∧
      gate.Reports query result records ∧
      (result = .ok () ↔ ¬ Blank query.toList ∧
        (gate.allowWrites = true ∨ ∀ statement ∈ split query, isWrite statement = false)) := by
  have hreports := gate.ending_reports query
  exact ⟨gate.ending query, gate.trail query, start_check gate query stage, hreports,
    hreports.eq_ok_iff⟩

end Gate

end QueryGate
