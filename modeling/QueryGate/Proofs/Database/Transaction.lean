import QueryGate.Proofs.Database.Attempt

/-!
# Transactions of the service

A query commits at most once, behind statements that all succeeded and behind the rows that they
gave. An error of the driver before the commit is done is rolled back once, and nothing is
committed after it. A query returns exactly if its commit and the return of its connection
succeeded, and then with the rows that were fetched. Probes and look-ups never commit.
-/

namespace QueryGate

open QueryGate.Number

namespace Service

/-- What the calls of a query say about its transaction, at given readings of the clock. -/
structure Transacts (texts : List String) (start finish : Except Fault Double) (s : Service)
    (events : List Event) (r : Except Fault (List Entries)) : Prop where
  commitsOnce : calls Call.isCommit events ≤ 1
  commitsBehind : ∀ before ending after, events = before ++ ⟨.commit, ending⟩ :: after →
    ∃ pool rows result, s.pool = some pool ∧ Results rows result ∧
      before = ⟨.checkOut pool, .done⟩ :: finishedCursor texts result
  /-- Behind an error of the driver only the cursor is closed before the rollback. -/
  reverts : ∀ before call error after,
    events = before ++ ⟨call, .raised (.driver error)⟩ :: after → call.isTried = true →
      calls Call.isRollback before = 0 ∧ ∃ closing ending pool last,
        (closing = [] ∨ closing = [⟨.closeCursor, .done⟩]) ∧
          after = closing ++ [⟨.rollback, ending⟩, ⟨.giveBack pool, last⟩]
  revertsOnly : ∀ ending, ⟨.rollback, ending⟩ ∈ events →
    (∃ call error, call.isTried = true ∧ ⟨call, .raised (.driver error)⟩ ∈ events) ∨
      ∃ error, start = .error (.driver error) ∨ finish = .error (.driver error)
  returns : ∀ found, r = .ok found ↔ ⟨.commit, .done⟩ ∈ events ∧
    (∃ pool, ⟨.giveBack pool, .done⟩ ∈ events) ∧ settled finish (fetchedRows events) = .ok found

variable {sql : String} {readOnly : Bool} {timeout : Int} {s s' : Service} {events : List Event}

section

variable {start finish : Except Fault Double} {attempt ends : List Event}
variable {r attempted : Except Fault (List Entries)}

theorem calls_isCommit_finishedCursor {texts : List String} {rows : List Value}
    {result : List Event} (h : Results rows result) :
    calls Call.isCommit (finishedCursor texts result) = 0 :=
  calls_eq_zero fun event hmem => (finishedCursor_quiet h event hmem).1

theorem CommitsAt.commits_le {texts : List String} (h : CommitsAt texts finish attempt r) :
    calls Call.isCommit attempt ≤ 1 := by
  cases h with
  | never h fault => simp [calls_eq_zero h]
  | refused h fault => simp [calls_isCommit_finishedCursor h, Call.isCommit]
  | done h => simp [calls_isCommit_finishedCursor h, Call.isCommit]

theorem RollsBack.isRollback (h : RollsBack r ends) :
    ∀ event ∈ ends, ∃ ending, event = ⟨.rollback, ending⟩ := by
  cases h with
  | kept h => simp
  | reverted h ending => simp

theorem RollsBack.notMem (h : RollsBack r ends) {call : Call} (hcall : call.isRollback = false)
    (ending : Ending) : ⟨call, ending⟩ ∉ ends := by
  intro hmem
  obtain ⟨_, hevent⟩ := h.isRollback _ hmem
  cases hevent
  cases hcall

theorem RollsBack.commits (h : RollsBack r ends) : calls Call.isCommit ends = 0 :=
  calls_eq_zero fun event hmem => by
    obtain ⟨ending, rfl⟩ := h.isRollback event hmem
    rfl

theorem RollsBack.fetchedRows (h : RollsBack r ends) : fetchedRows ends = [] := by
  cases h with
  | kept h => rfl
  | reverted h ending => rfl

/-- The commit stands behind the finished cursor. -/
theorem CommitsAt.behind {texts : List String} {pool : Nat} {last ending : Ending}
    {before after : List Event} (h : CommitsAt texts finish attempt attempted)
    (back : RollsBack attempted ends)
    (hevents : [⟨.checkOut pool, .done⟩] ++ attempt ++ ends ++ [⟨.giveBack pool, last⟩] =
      before ++ ⟨.commit, ending⟩ :: after) :
    ∃ rows result, Results rows result ∧
      before = ⟨.checkOut pool, .done⟩ :: finishedCursor texts result := by
  have hnotEnds : ⟨.commit, ending⟩ ∉ ends := back.notMem rfl ending
  -- The attempt commits once and the rollback does not, so that there is one way to split.
  have hsplit {result : List Event} {rows : List Value} (hresult : Results rows result)
      {committed : Ending}
      (hattempt : attempt = finishedCursor texts result ++ [⟨.commit, committed⟩]) :
      before = ⟨.checkOut pool, .done⟩ :: finishedCursor texts result := by
    have hnotCursor : ⟨.commit, ending⟩ ∉ finishedCursor texts result := fun hmem => by
      cases (finishedCursor_quiet hresult _ hmem).1
    have hevents' : (⟨.checkOut pool, .done⟩ :: finishedCursor texts result) ++
        ⟨.commit, committed⟩ :: (ends ++ [⟨.giveBack pool, last⟩]) =
          before ++ ⟨.commit, ending⟩ :: after := by
      rw [← hevents, hattempt]
      simp
    exact ((List.append_cons_inj_of_notMem (by simp [hnotCursor])
      (by simp [hnotEnds])).mp hevents').1.symm
  cases h with
  | never h fault =>
    have hmem : ⟨.commit, ending⟩ ∈
        [⟨.checkOut pool, .done⟩] ++ attempt ++ ends ++ [⟨.giveBack pool, last⟩] :=
      hevents ▸ List.mem_append_cons_self
    have hnotAttempt : ⟨.commit, ending⟩ ∉ attempt := fun hmem => by cases h _ hmem
    simp [hnotAttempt, hnotEnds] at hmem
  | refused h fault => exact ⟨_, _, h, hsplit h rfl⟩
  | done h => exact ⟨_, _, h, hsplit h rfl⟩

theorem AttemptsAt.reverts {pool : Nat} {last : Ending} {before after : List Event}
    {call : Call} {error : DriverError}
    (h : AttemptsAt start finish sql readOnly timeout s attempt attempted s')
    (back : RollsBack attempted ends)
    (hevents : [⟨.checkOut pool, .done⟩] ++ attempt ++ ends ++ [⟨.giveBack pool, last⟩] =
      before ++ ⟨call, .raised (.driver error)⟩ :: after) (hcall : call.isTried = true) :
    calls Call.isRollback before = 0 ∧ ∃ closing ending pool last,
      (closing = [] ∨ closing = [⟨.closeCursor, .done⟩]) ∧
        after = closing ++ [⟨.rollback, ending⟩, ⟨.giveBack pool, last⟩] := by
  have hgiveBack : call ≠ .giveBack pool := by rintro rfl; cases hcall
  have hnotEnds : ⟨call, .raised (.driver error)⟩ ∉ ends :=
    back.notMem (Call.isRollback_of_isTried hcall) _
  rcases h.succeeds_or_stopsAt with
    hquiet | ⟨fault, rfl, @⟨front, closing, failed, hfailed, hfront, hclosing⟩⟩
  · have hmem : ⟨call, .raised (.driver error)⟩ ∈
        [⟨.checkOut pool, .done⟩] ++ attempt ++ ends ++ [⟨.giveBack pool, last⟩] :=
      hevents ▸ List.mem_append_cons_self
    have hnotAttempt : ⟨call, .raised (.driver error)⟩ ∉ attempt := fun hmem => by
      cases (hquiet _ hmem).2
    simp [hnotAttempt, hnotEnds, hgiveBack] at hmem
  · -- The failed call is the only one that raised a fault.
    have hnotFront : ⟨call, .raised (.driver error)⟩ ∉ front := fun hmem => by
      cases (hfront _ hmem).2
    have hnotClosing : ⟨call, .raised (.driver error)⟩ ∉ closing := by
      rcases hclosing with rfl | rfl <;> simp
    have hsplit : (⟨.checkOut pool, .done⟩ :: front) ++ ⟨failed, .raised fault⟩ ::
        (closing ++ ends ++ [⟨.giveBack pool, last⟩]) =
          before ++ ⟨call, .raised (.driver error)⟩ :: after := by
      rw [← hevents]
      simp
    obtain ⟨rfl, hevent, rfl⟩ := (List.append_cons_inj_of_notMem (by simp [hnotFront])
      (by simp [hnotClosing, hnotEnds, hgiveBack])).mp hsplit
    cases hevent
    refine ⟨?_, ?_⟩
    · have hnone := calls_eq_zero fun event hmem => (hfront event hmem).1
      simp [hnone, Call.isRollback]
    · cases back with
      | kept hkept => cases hkept error rfl
      | reverted _ ending => exact ⟨closing, ending, pool, last, hclosing, by simp⟩

theorem AttemptsAt.revertsOnly {pool : Nat} {last ending : Ending}
    (h : AttemptsAt start finish sql readOnly timeout s attempt attempted s')
    (back : RollsBack attempted ends)
    (hmem : ⟨.rollback, ending⟩ ∈
      [⟨.checkOut pool, .done⟩] ++ attempt ++ ends ++ [⟨.giveBack pool, last⟩]) :
    (∃ call error, call.isTried = true ∧ ⟨call, .raised (.driver error)⟩ ∈
      [⟨.checkOut pool, .done⟩] ++ attempt ++ ends ++ [⟨.giveBack pool, last⟩]) ∨
        ∃ error, start = .error (.driver error) ∨ finish = .error (.driver error) := by
  have hnotAttempt : ⟨.rollback, ending⟩ ∉ attempt := fun hmem => by
    cases h.isRollback _ hmem
  cases back with
  | kept hkept => simp [hnotAttempt] at hmem
  | @reverted error herror _ =>
    subst herror
    rcases h.driver with ⟨call, hcall, hraised⟩ | hclock
    · exact .inl ⟨call, error, hcall, by simp [hraised]⟩
    · exact .inr ⟨error, hclock⟩

theorem AttemptsAt.returns {pool : Nat} {last : Ending} {found : List Entries}
    (h : AttemptsAt start finish sql readOnly timeout s attempt attempted s')
    (back : RollsBack attempted ends) :
    attempted = .ok found ∧ last = .done ↔
      let events := [⟨.checkOut pool, .done⟩] ++ attempt ++ ends ++ [⟨.giveBack pool, last⟩]
      ⟨.commit, .done⟩ ∈ events ∧ (∃ pool, ⟨.giveBack pool, .done⟩ ∈ events) ∧
        settled finish (fetchedRows events) = .ok found := by
  have hcommit : ⟨.commit, .done⟩ ∉ ends := back.notMem rfl .done
  have hgiven : (∃ pool', ⟨.giveBack pool', .done⟩ ∈
      [⟨.checkOut pool, .done⟩] ++ attempt ++ ends ++ [⟨.giveBack pool, last⟩]) ↔ last = .done := by
    have hnotAttempt (pool' : Nat) : ⟨.giveBack pool', .done⟩ ∉ attempt := fun hmem => by
      cases (Call.of_isWork (h.attempts.works.isWork _ hmem)).2
    have hnotEnds (pool' : Nat) : ⟨.giveBack pool', .done⟩ ∉ ends := back.notMem rfl .done
    simp [hnotAttempt, hnotEnds, eq_comm]
  dsimp only
  rw [hgiven]
  cases h.commitsAt with
  | never hnever fault =>
    have hnotAttempt : ⟨.commit, .done⟩ ∉ attempt := fun hmem => by cases hnever _ hmem
    simp [hnotAttempt, hcommit]
  | refused hresult fault =>
    have hnotCursor : ⟨.commit, .done⟩ ∉ finishedCursor (setUp readOnly timeout ++ [sql]) _ :=
      fun hmem => by cases (finishedCursor_quiet hresult _ hmem).1
    simp [hnotCursor, hcommit]
  | @done rows result hresult =>
    have hrows : fetchedRows ([⟨.checkOut pool, .done⟩] ++
        (finishedCursor (setUp readOnly timeout ++ [sql]) result ++ [⟨.commit, .done⟩]) ++ ends ++
          [⟨.giveBack pool, last⟩]) = rows := by
      simp only [fetchedRows_append, fetchedRows_finishedCursor hresult, back.fetchedRows]
      simp [fetchedRows, Event.fetched]
    rw [hrows]
    simp [and_comm]

theorem Queries.transacts {events : List Event}
    (h : Queries start finish sql readOnly timeout s events r) :
    Transacts (setUp readOnly timeout ++ [sql]) start finish s events r := by
  cases h with
  | unconnected hcheckOut fault =>
    have hnot {call : Call} {ending : Ending} (hcall : call.isCheckOut = false) :
        ⟨call, ending⟩ ∉ events := fun hmem => by
      rw [hcheckOut _ hmem] at hcall
      cases hcall
    constructor
    case commitsOnce =>
      have hnone : calls Call.isCommit events = 0 := calls_eq_zero fun event hmem =>
        Call.isCommit_of_isCheckOut (hcheckOut event hmem)
      omega
    case commitsBehind =>
      rintro before ending after rfl
      exact absurd List.mem_append_cons_self (hnot rfl)
    case reverts =>
      rintro before call error after rfl htried
      refine absurd List.mem_append_cons_self (hnot ?_)
      cases call <;> first | rfl | cases htried
    case revertsOnly => exact fun ending hmem => absurd hmem (hnot rfl)
    case returns =>
      have hcommit : ⟨.commit, .done⟩ ∉ events := hnot rfl
      simp [hcommit]
  | used hpool last run back hr =>
    have hbehind := run.commitsAt
    constructor
    case commitsOnce =>
      have hattempt := hbehind.commits_le
      have hends := back.commits
      simp [hends, Call.isCommit, hattempt]
    case commitsBehind =>
      intro before ending after hevents
      obtain ⟨rows, result, hresult, hbefore⟩ := hbehind.behind back hevents
      exact ⟨_, rows, result, hpool, hresult, hbefore⟩
    case reverts =>
      intro before call error after hevents htried
      exact run.reverts back hevents htried
    case revertsOnly =>
      intro ending hmem
      exact run.revertsOnly back hmem
    case returns =>
      intro found
      exact (hr found).trans (run.returns back)

end

theorem query_transacts : (query sql readOnly).ShowsBy Stage.timed fun s events r _ =>
    Transacts (setUp readOnly s.1.settings.statementTimeout ++ [sql]) (s.2 0) (s.2 1) s.1
      events r :=
  query_timed.mono fun _ _ _ _ h => h.1.queries.transacts

/-- With a clock that runs and rows that are objects, a query returns these rows exactly if its
commit and the return of its connection succeeded. -/
theorem Transacts.returns_rows {texts : List String} {start finish : Except Fault Double}
    {r : Except Fault (List Entries)} (h : Transacts texts start finish s events r)
    {reading : Double} (hfinish : finish = .ok reading) {rows : List Entries}
    (hrows : fetchedRows events = rows.map Value.object) (found : List Entries) :
    r = .ok found ↔ (⟨.commit, .done⟩ ∈ events ∧ ∃ pool, ⟨.giveBack pool, .done⟩ ∈ events) ∧
      found = rows := by
  have hsettled : settled finish (fetchedRows events) = .ok found ↔ found = rows := by
    rw [settled_eq_ok_iff, hrows, Entries.mapM_ofValue_object, hfinish]
    simp [eq_comm]
  rw [h.returns, hsettled, and_assoc]

def NeverCommits {α : Type} (act : Action α) : Prop :=
  act.Shows fun _ events _ _ => calls Call.isCommit events = 0

theorem UsesConnection.calls_isCommit (h : UsesConnection false s events) :
    calls Call.isCommit events = 0 := by
  cases h with
  | idle => rfl
  | refused hpool fault => rfl
  | used hpool work ending =>
    obtain @⟨cursor, ends, hcursor, hends⟩ := work
    have hcursor : calls Call.isCommit cursor = 0 := calls_eq_zero fun event hmem =>
      (Call.of_isCursor (hcursor.isCursor event hmem)).1
    have hends : calls Call.isCommit ends = 0 := calls_eq_zero fun event hmem =>
      Call.isCommit_of_settles (hends event hmem)
    simp [hcursor, hends, Call.isCommit]

theorem neverCommits_of_usesConnection {α : Type} {act : Action α}
    (h : act.Shows fun s events _ _ => UsesConnection false s events) : NeverCommits act :=
  h.mono fun _ _ _ _ run => run.calls_isCommit

/-- Queries settle their transactions, and the other operations never commit. -/
theorem transactions_settled :
    (∀ sql readOnly, (query sql readOnly).ShowsBy Stage.timed fun s events r _ =>
      Transacts (setUp readOnly s.1.settings.statementTimeout ++ [sql]) (s.2 0) (s.2 1) s.1
        events r ∧
      ∀ reading rows, s.2 1 = .ok reading → fetchedRows events = rows.map Value.object →
        ∀ found, r = .ok found ↔
          (⟨.commit, .done⟩ ∈ events ∧ ∃ pool, ⟨.giveBack pool, .done⟩ ∈ events) ∧
            found = rows) ∧
    NeverCommits probe ∧ NeverCommits tables ∧
      ∀ schema table, NeverCommits (tableDetails schema table) := by
  refine ⟨fun sql readOnly => ?_, ?_, ?_, fun schema table => ?_⟩
  · refine query_transacts.mono fun s events r s' h => ⟨h, ?_⟩
    intro reading rows hfinish hrows found
    exact h.returns_rows hfinish hrows found
  · exact neverCommits_of_usesConnection probe_usesConnection
  · exact neverCommits_of_usesConnection tables_usesConnection
  · exact neverCommits_of_usesConnection tableDetails_usesConnection

/-- A service with an open pool, and the replies that it will get. -/
def openStage (script : Script) : Stage Service := ⟨⟨localSettings, some 0, true⟩, { script }⟩

/-- A service whose next statement gives one row. -/
def rowStage : Stage Service := openStage { fetchAll := [some (.ok [.object [("n", .int 1)]])] }

/-- The row is returned, as the commit and the return of the connection succeeded. -/
theorem transactions_settled_row :
    ((query "SELECT 1 AS n" true).start rowStage).1 = .ok [[("n", .int 1)]] := by
  obtain ⟨events, hjournal, -, h⟩ := transactions_settled.1 "SELECT 1 AS n" true rowStage
  have hcalls : events = [⟨.checkOut 0, .done⟩, ⟨.openCursor true, .done⟩,
      ⟨.execute readOnlyStatement [], .done⟩, ⟨.execute (timeoutText 30000) [], .done⟩,
      ⟨.execute "SELECT 1 AS n" [], .done⟩, ⟨.hasRows, .answered true⟩,
      ⟨.fetchAll, .fetched [.object [("n", .int 1)]]⟩, ⟨.closeCursor, .done⟩, ⟨.commit, .done⟩,
      ⟨.giveBack 0, .done⟩] := hjournal.symm
  subst hcalls
  refine (h .zero [[("n", .int 1)]] rfl rfl _).mpr ⟨⟨?_, 0, ?_⟩, rfl⟩
  · simp
  · simp

end Service

end QueryGate
