import Mathlib.Data.List.Forall2
import QueryGate.Proofs.Gate.Report
import QueryGate.Proofs.Sql.Disguise

/-!
# What leaves the verdict as it is

Whatever padding is put before the statements of a query, the gate that allows no writes sees the
same statements with the same leading keywords. So a refused query stays refused, and no later than
before. The converse holds but for `WITH` statements, whose padding is searched as well: a comment
that mentions a write word makes a write of them.

The statements of a query, joined by line feeds and separators, are the statements of the joined
text. Trimming may have taken the line feed that ended a comment of a statement, and the line feed
before the separator ends it again; only the last statement may end in an open comment or quoted
text, and nothing stands behind it. As the gate looks at the statements alone, it judges the joined
text as it judges the query. Only a query that is not blank and has no statement fares differently:
it is accepted, and the blank text that is left of it is not.
-/

namespace QueryGate

open QueryGate.Text QueryGate.Sql

variable {σ : Type}

/-- The statements of a query behind paddings, joined into one query again. -/
def disguise (paddings : List String) (query : String) : String :=
  joinWith "\n;" (List.zipWith (· ++ ·) paddings (split query))

theorem toList_disguise (paddings : List String) (query : String) :
    (disguise paddings query).toList =
      disguisedChars (paddings.map String.toList) (splitChars query.toList) := by
  have hjoin : ("\n;" : String).toList = ['\n', ';'] := by decide
  have hparts : (List.zipWith (· ++ ·) paddings (split query)).map String.toList =
      List.zipWith (· ++ ·) (paddings.map String.toList) (splitChars query.toList) := by
    rw [split, List.zipWith_map_right, List.map_zipWith, List.zipWith_map_left]
    congr 1
    funext padding statement
    rw [String.toList_append, String.toList_ofList]
  rw [disguise, joinWith, String.toList_intercalate, hjoin, hparts, disguisedChars]

/-- The statements of the new query are the old ones behind their paddings, trimmed. -/
theorem split_disguise {query : String} {paddings : List String}
    (hpaddings : ∀ padding ∈ paddings, Padding padding.toList)
    (hlength : paddings.length = (split query).length) :
    split (disguise paddings query) =
      List.zipWith (fun padding statement => trimmed (padding ++ statement)) paddings
        (split query) := by
  have hpadded : ∀ padding ∈ paddings.map String.toList, Padding padding :=
    List.forall_mem_map.mpr hpaddings
  have hlength' : (paddings.map String.toList).length = (splitChars query.toList).length := by
    rw [List.length_map, hlength, split, List.length_map]
  rw [split, toList_disguise,
    splitChars_disguisedChars hpadded hlength' (areStatements_splitChars query.toList), split,
    List.zipWith_map_right, List.map_zipWith, List.zipWith_map_left]
  congr 1
  funext padding statement
  rw [trimmed, String.toList_append, String.toList_ofList]

theorem trimmed_of_mem_split {query statement : String} (h : statement ∈ split query) :
    Trimmed statement.toList := by
  obtain ⟨cs, hcs, rfl⟩ := List.mem_map.mp h
  rw [String.toList_ofList]
  exact (areStatements_splitChars query.toList).trimmed cs hcs

theorem allBlank_eq_false_of_split {query : String} (h : split query ≠ []) :
    allBlank query = false := by
  by_contra hblank
  rw [Bool.not_eq_false, allBlank_iff] at hblank
  apply h
  rw [split, splitChars_of_blank hblank, List.map_nil]

section

variable {padding statement : String}

theorem leadingKeyword_trimmed_append (h : Padding padding.toList) (statement : String) :
    leadingKeyword (trimmed (padding ++ statement)) = leadingKeyword statement := by
  have hword : leadingWord (trimmed (padding ++ statement)).toList =
      leadingWord statement.toList := by
    rw [trimmed, String.toList_ofList, String.toList_append, h.leadingWord_append]
  rw [leadingKeyword, leadingKeyword, hword]

theorem isWrite_trimmed_append (h : Padding padding.toList) (hstatement : Trimmed statement.toList)
    (hwrite : isWrite statement = true) : isWrite (trimmed (padding ++ statement)) = true := by
  by_contra hread
  rw [Bool.not_eq_true, isWrite_eq_false_iff, trimmed, String.toList_ofList,
    String.toList_append, h.leadingWord_append] at hread
  have hreads : isWrite statement = false :=
    isWrite_eq_false_iff.mpr (hread.imp_right fun hsafe =>
      ⟨hsafe.1, fun hwith => (hsafe.2 hwith).of_trim_append hstatement⟩)
  rw [hwrite] at hreads
  cases hreads

/-- A read that is not led by `WITH` is a read behind padding too. -/
theorem isWrite_trimmed_append_eq_false (h : Padding padding.toList)
    (hwith : leadingKeyword statement ≠ some "with") (hread : isWrite statement = false) :
    isWrite (trimmed (padding ++ statement)) = false := by
  rw [isWrite, leadingKeyword_trimmed_append h]
  rw [isWrite] at hread
  cases hkeyword : leadingKeyword statement with
  | none => rfl
  | some keyword =>
    have hother : (keyword == "with") = false := by
      rw [beq_eq_false_iff_ne]
      rintro rfl
      exact hwith hkeyword
    rw [hkeyword] at hread
    simpa [hother] using hread

end

/-- What a statement and the same one behind padding have in common. -/
structure Padded (statement padded : String) : Prop where
  keyword : leadingKeyword padded = leadingKeyword statement
  write : isWrite statement = true → isWrite padded = true
  read : leadingKeyword statement ≠ some "with" → isWrite statement = false →
    isWrite padded = false

theorem forall₂_disguise {query : String} {paddings : List String}
    (hpaddings : ∀ padding ∈ paddings, Padding padding.toList)
    (hlength : paddings.length = (split query).length) :
    List.Forall₂ Padded (split query) (split (disguise paddings query)) := by
  rw [split_disguise hpaddings hlength]
  have htrimmed : ∀ statement ∈ split query, Trimmed statement.toList :=
    fun statement hmem => trimmed_of_mem_split hmem
  revert hlength htrimmed
  generalize split query = statements
  intro hlength htrimmed
  induction statements generalizing paddings with
  | nil =>
    rw [List.zipWith_nil_right]
    exact .nil
  | cons statement statements ih =>
    cases paddings with
    | nil => cases hlength
    | cons padding paddings =>
      rw [List.forall_mem_cons] at hpaddings htrimmed
      have hkeyword := leadingKeyword_trimmed_append hpaddings.1 statement
      exact .cons ⟨hkeyword, isWrite_trimmed_append hpaddings.1 htrimmed.1,
        isWrite_trimmed_append_eq_false hpaddings.1⟩
        (ih hpaddings.2 (Nat.succ.inj hlength) htrimmed.2)

/-- Reads that are not led by `WITH` are reads behind padding. -/
theorem reads_of_padded {statements others : List String}
    (h : List.Forall₂ Padded statements others)
    (hwith : ∀ statement ∈ statements, leadingKeyword statement ≠ some "with")
    (hreads : ∀ statement ∈ statements, isWrite statement = false) :
    ∀ other ∈ others, isWrite other = false := by
  induction h with
  | nil =>
    intro other hmem
    cases hmem
  | cons hpadded _ ih =>
    rw [List.forall_mem_cons] at hwith hreads ⊢
    exact ⟨hpadded.read hwith.1 hreads.1, ih hwith.2 hreads.2⟩

theorem le_of_firstWrite {statements : List String} {position found : Nat} {statement : String}
    (h : firstWrite position statements = some (statement, found)) : position ≤ found := by
  induction statements generalizing position with
  | nil => cases h
  | cons first rest ih =>
    rw [firstWrite] at h
    cases hwrite : isWrite first with
    | true =>
      rw [hwrite, if_pos rfl] at h
      cases h
      exact Nat.le_refl _
    | false =>
      rw [hwrite, if_neg Bool.false_ne_true] at h
      have hlater := ih h
      omega

/-- If every write is replaced by a write, the first write does not stand later. -/
theorem firstWrite_le {statements others : List String}
    (h : List.Forall₂ (fun statement other => isWrite statement = true → isWrite other = true)
      statements others) {position found : Nat} {statement : String}
    (hfirst : firstWrite position statements = some (statement, found)) :
    ∃ other earlier, firstWrite position others = some (other, earlier) ∧ earlier ≤ found := by
  induction h generalizing position with
  | nil => cases hfirst
  | @cons first other rest others hkept _ ih =>
    have hle := le_of_firstWrite hfirst
    rw [firstWrite] at hfirst ⊢
    cases hother : isWrite other with
    | true => exact ⟨other, position, rfl, hle⟩
    | false =>
      have hread : isWrite first = false := by
        cases hwrite : isWrite first with
        | true =>
          rw [hkept hwrite] at hother
          cases hother
        | false => rfl
      rw [hread, if_neg Bool.false_ne_true] at hfirst
      simpa using ih hfirst

namespace Gate

theorem ending_eq_refused_iff {gate : Gate} {query reason statement : String} {position : Int} :
    gate.ending query = .error (.service (.refused reason (some statement) (some position))) ↔
      gate.allowWrites = false ∧ allBlank query = false ∧
        reason = "Write operations are disabled. Consult a human to enable this." ∧
        ∃ found : Nat, position = found ∧ firstWrite 1 (split query) = some (statement, found) := by
  rw [ending, judge]
  cases allBlank query with
  | true => simp [Refusal.error]
  | false =>
    cases gate.allowWrites with
    | true => simp
    | false =>
      cases firstWrite 1 (split query) with
      | none => simp
      | some found =>
        rcases found with ⟨first, index⟩
        constructor
        · intro hrefused
          cases hrefused
          exact ⟨rfl, rfl, rfl, index, rfl, rfl⟩
        · rintro ⟨-, -, rfl, _, rfl, hfirst⟩
          cases hfirst
          rfl

/-- The gate that allows no writes is not deceived by padding: the query that is put together from
the statements of another one, each behind any padding, has these statements and their leading
keywords. If a write of the old query is refused, one that stands no later in the new query is. If
the old query is accepted, and no statement of it is led by `WITH`, the new query is accepted. -/
theorem padding_hides_no_write (channel : String) {query : String} {paddings : List String}
    (hstatements : split query ≠ []) (hlength : paddings.length = (split query).length)
    (hpaddings : ∀ padding ∈ paddings, Padding padding.toList) (stage : Stage σ) :
    (split (disguise paddings query)).length = (split query).length ∧
    split (disguise paddings query) =
      List.zipWith (fun padding statement => trimmed (padding ++ statement)) paddings
        (split query) ∧
    (split (disguise paddings query)).map leadingKeyword = (split query).map leadingKeyword ∧
    (∀ reason statement (position : Int),
      (((Gate.mk false channel).check query).start stage).1 =
          .error (.service (.refused reason (some statement) (some position))) →
        ∃ statement' position',
          (((Gate.mk false channel).check (disguise paddings query)).start stage).1 =
              .error (.service (.refused reason (some statement') (some position'))) ∧
            position' ≤ position) ∧
    ((((Gate.mk false channel).check query).start stage).1 = .ok () →
      (∀ statement ∈ split query, leadingKeyword statement ≠ some "with") →
        (((Gate.mk false channel).check (disguise paddings query)).start stage).1 = .ok ()) := by
  have hsplit := split_disguise hpaddings hlength
  have hpaired := forall₂_disguise hpaddings hlength
  have hinked : allBlank (disguise paddings query) = false := by
    apply allBlank_eq_false_of_split
    rw [hsplit]
    intro hnone
    rcases List.zipWith_eq_nil_iff.mp hnone with hnil | hnil
    · rw [hnil] at hlength
      exact hstatements (List.length_eq_zero_iff.mp hlength.symm)
    · exact hstatements hnil
  refine ⟨hpaired.length_eq.symm, hsplit, ?_, ?_, ?_⟩
  · symm
    rw [← List.forall₂_eq_eq_eq, List.forall₂_map_left_iff, List.forall₂_map_right_iff]
    exact hpaired.imp fun statement padded h => h.keyword.symm
  · intro reason statement position hrefused
    rw [start_check, ending_eq_refused_iff] at hrefused
    obtain ⟨hpolicy, -, hreason, found, rfl, hfirst⟩ := hrefused
    obtain ⟨other, earlier, hother, hle⟩ :=
      firstWrite_le (hpaired.imp fun _ _ h => h.write) hfirst
    refine ⟨other, earlier, ?_, by exact_mod_cast hle⟩
    rw [start_check, ending_eq_refused_iff]
    exact ⟨hpolicy, hinked, hreason, earlier, rfl, hother⟩
  · intro haccepted hwith
    rw [start_check, ending_eq_ok_iff, judge_eq_ok_iff rfl] at haccepted ⊢
    exact ⟨hinked, reads_of_padded hpaired hwith haccepted.2⟩

/-- A write behind a comment with a separator in it and an open parenthesis. The read before it
stands behind a comment with a separator and a quote. -/
theorem padding_hides_no_write_delete :
    split (disguise ["/* ;\x27 */", "-- ;\n("] "SELECT 1; DELETE FROM t") =
        ["/* ;\x27 */SELECT 1", "-- ;\n(DELETE FROM t"] ∧
      ∃ statement' position',
        (((Gate.mk false Log.Channel.gate).check
            (disguise ["/* ;\x27 */", "-- ;\n("] "SELECT 1; DELETE FROM t")).start
            (⟨(), {}⟩ : Stage Unit)).1 =
          .error (.service (.refused
            "Write operations are disabled. Consult a human to enable this." (some statement')
            (some position'))) ∧ position' ≤ 2 := by
  have hcomment : Padding "/* ;\x27 */".toList := by
    have hbody : ¬ ['*', '/'] <:+: [' ', ';', '\x27', ' '] := by decide
    exact .block hbody .nil
  have hline : Padding "-- ;\n(".toList := by
    have hbody : '\n' ∉ [' ', ';'] := by decide
    exact .line hbody (.paren .nil)
  have hpaddings : ∀ padding ∈ ["/* ;\x27 */", "-- ;\n("], Padding padding.toList :=
    List.forall_mem_cons.mpr ⟨hcomment, List.forall_mem_cons.mpr ⟨hline, by simp⟩⟩
  have hstatements : split "SELECT 1; DELETE FROM t" ≠ [] := by decide
  obtain ⟨-, hsplit, -, hrefused, -⟩ := padding_hides_no_write Log.Channel.gate hstatements
    (by decide) hpaddings (⟨(), {}⟩ : Stage Unit)
  refine ⟨hsplit.trans (by decide), hrefused _ "DELETE FROM t" 2 ?_⟩
  rw [start_check]
  rfl

end Gate

theorem splitChars_intercalate {statements : List (List Char)} (h : AreStatements statements) :
    splitChars (List.intercalate ['\n', ';'] statements) = statements := by
  -- They are joined as they are behind paddings, which are all empty here.
  have hpaddings : ∀ padding ∈ statements.map fun _ => [], Padding padding :=
    List.forall_mem_map.mpr fun _ _ => .nil
  have hempty (f : List Char → List Char → List Char) :
      List.zipWith f (statements.map fun _ => []) statements = statements.map (f []) := by
    rw [List.zipWith_map_left, List.zipWith_self]
  have htrim : statements.map (fun cs => trim ([] ++ cs)) = statements :=
    (List.map_congr_left fun cs hcs => (h.trimmed cs hcs).trim_append []).trans
      (List.map_id' statements)
  calc splitChars (List.intercalate ['\n', ';'] statements)
      = splitChars (disguisedChars (statements.map fun _ => []) statements) := by
        rw [disguisedChars, hempty]
        exact congrArg _ (congrArg _ (List.map_id' statements).symm)
    _ = statements.map fun cs => trim ([] ++ cs) := by
        rw [splitChars_disguisedChars hpaddings (List.length_map _) h, hempty]
    _ = statements := htrim

theorem split_joinWith {statements : List String}
    (h : AreStatements (statements.map String.toList)) :
    split (joinWith "\n;" statements) = statements := by
  have hjoin : ("\n;" : String).toList = ['\n', ';'] := by decide
  rw [split, joinWith, String.toList_intercalate, hjoin, splitChars_intercalate h, List.map_map]
  exact List.map_id'' (fun _ => String.ofList_toList) statements

theorem areStatements_split (query : String) :
    AreStatements ((split query).map String.toList) := by
  have hchars : (split query).map String.toList = splitChars query.toList := by
    rw [split, List.map_map]
    exact List.map_id'' (fun _ => String.toList_ofList) _
  rw [hchars]
  exact areStatements_splitChars query.toList

/-- The statements of a query as one text, each on lines of its own. -/
def rejoined (query : String) : String := joinWith "\n;" (split query)

theorem split_rejoined (query : String) : split (rejoined query) = split query :=
  split_joinWith (areStatements_split query)

namespace Gate

theorem ending_congr {gate : Gate} {query other : String} (hsplit : split query = split other)
    (hblank : allBlank query = allBlank other) : gate.ending query = gate.ending other := by
  rw [ending, ending, judge, judge, hsplit, hblank]

theorem ending_of_split_eq_nil {gate : Gate} {query : String} (hnone : split query = [])
    (hinked : allBlank query = false) : gate.ending query = .ok () := by
  rw [ending, judge, hinked, hnone, firstWrite]
  cases gate.allowWrites <;> rfl

theorem ending_rejoined_eq_iff {gate : Gate} {query : String} :
    gate.ending (rejoined query) = gate.ending query ↔
      split query ≠ [] ∨ allBlank query = true := by
  by_cases hnone : split query = []
  · have hempty : rejoined query = "" := by rw [rejoined, hnone]; rfl
    cases hblank : allBlank query with
    | true =>
      have hstill : allBlank (rejoined query) = allBlank query := by
        rw [hblank, hempty]
        rfl
      simp [ending_congr (split_rejoined query) hstill]
    | false =>
      have hrefused : gate.ending "" = .error (.service Refusal.emptyQuery.error) := rfl
      simp [hnone, hempty, hrefused, ending_of_split_eq_nil hnone hblank]
  · have hjoined : split (rejoined query) ≠ [] := by rwa [split_rejoined]
    have hinked : allBlank (rejoined query) = allBlank query := by
      rw [allBlank_eq_false_of_split hnone, allBlank_eq_false_of_split hjoined]
    simp [hnone, ending_congr (split_rejoined query) hinked]

/-- A query and its statements joined again have the same statements in the same order. So every
gate comes to the same verdict, with the same blamed statement and position, unless the query is not
blank and has no statement. -/
theorem rejoining_keeps_verdict (gate : Gate) (query : String) (stage : Stage σ) :
    split (rejoined query) = split query ∧
      (((gate.check (rejoined query)).start stage).1 = ((gate.check query).start stage).1 ↔
        split query ≠ [] ∨ allBlank query = true) := by
  have hverdict (query : String) :
      ((gate.check query).start stage).1 = gate.ending query := by rw [start_check]
  rw [hverdict, hverdict]
  exact ⟨split_rejoined query, ending_rejoined_eq_iff⟩

/-- A bare separator does not do: it is lost in the comment before it. -/
example : split "SELECT 1 -- one\n; DROP TABLE t" = ["SELECT 1 -- one", "DROP TABLE t"] ∧
    split (joinWith ";" ["SELECT 1 -- one", "DROP TABLE t"]) =
      ["SELECT 1 -- one;DROP TABLE t"] := by
  decide

end Gate

end QueryGate
