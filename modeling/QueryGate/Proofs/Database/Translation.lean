import QueryGate.Proofs.Database.Transaction

/-!
# Errors of the driver

The service reports errors of the driver as errors of its own, but not all of them. If every call
succeeds or raises an error of the driver, then an operation other than the probe ends with such
an error in three cases: a checkout fails for another reason than an exhausted pool, the rollback
behind a failure fails itself, or the connection cannot be given back. A probe reports them all.
The only other fault that is not reported is that of a time limit too large to be written.
-/

namespace QueryGate

/-- The call succeeded with rows that are objects, or it raised an error of the driver. -/
def Event.IsRegular (event : Event) : Prop :=
  match event.ending with
  | .raised fault => ∃ error, fault = .driver error
  | .fetched rows => ∃ entries : List Entries, rows = entries.map Value.object
  | _ => True

namespace Service

open Behaviour

variable {α : Type}

/-- A fault that the operations of the service report. -/
inductive Translated : Fault → Prop where
  | database (message : Text.RawText) (code detail : Option String) :
      Translated (.service (.database message code detail))
  | connection (message : String) : Translated (.service (.connection message))
  | unsafeIdentifier (identifier reason : String) :
      Translated (.service (.unsafeIdentifier identifier reason))

/-- Where an error of the driver escapes as it is. -/
inductive Escapes (error : DriverError) (events : List Event) : Prop where
  | checkOut {pool : Nat} (hkind : error.kind ≠ .pool)
      (hevents : events = [⟨.checkOut pool, .raised (.driver error)⟩])
  | rollback (pool : Nat) (before : List Event) (hevents : events =
      before ++ [⟨.rollback, .raised (.driver error)⟩] ++ [⟨.giveBack pool, .done⟩])
  | giveBack (pool : Nat) (before : List Event)
      (hevents : events = before ++ [⟨.giveBack pool, .raised (.driver error)⟩])

/-- Every fault is translated or an error of the driver, and the latter exactly where one escapes;
or it is another fault of the given kind. -/
structure Translates (other : Fault → Prop) (events : List Event) (r : Except Fault α) : Prop where
  faults : ∀ fault, r = .error fault →
    Translated fault ∨ (∃ error, fault = .driver error) ∨ other fault
  escapes : ∀ error, r = .error (.driver error) ↔ Escapes error events

theorem Translated.ne_driver {fault : Fault} (h : Translated fault) (error : DriverError) :
    fault ≠ .driver error := by
  rintro rfl
  cases h

theorem checkOutFault_of_pool {error : DriverError} (h : error.kind = .pool) :
    checkOutFault (.driver error) =
      .service (.connection ("Connection pool exhausted: " ++ error.message)) := by
  simp [checkOutFault, h]

theorem checkOutFault_of_ne_pool {error : DriverError} (h : error.kind ≠ .pool) :
    checkOutFault (.driver error) = .driver error := by
  simp [checkOutFault, h]

section

variable {pool : Nat} {inner : List Event} {error : DriverError}

theorem not_escapes_nil : ¬ Escapes error [] := by
  intro h
  cases h with
  | checkOut hkind hevents => cases hevents
  | rollback pool before hevents => simp at hevents
  | giveBack pool before hevents => simp at hevents

theorem escapes_checkOut_iff {error' : DriverError} :
    Escapes error [⟨.checkOut pool, .raised (.driver error')⟩] ↔
      error' = error ∧ error.kind ≠ .pool := by
  rw [← List.nil_append [_]]
  constructor
  · intro h
    cases h with
    | checkOut hkind hevents =>
      cases hevents
      exact ⟨rfl, hkind⟩
    | rollback pool' before hevents => cases (List.append_singleton_inj.mp hevents).2
    | giveBack pool' before hevents => cases (List.append_singleton_inj.mp hevents).2
  · rintro ⟨rfl, hkind⟩
    exact .checkOut hkind rfl

/-- Of a connection that was given back only a failing rollback escapes. -/
theorem escapes_returned_iff :
    Escapes error (⟨.checkOut pool, .done⟩ :: (inner ++ [⟨.giveBack pool, .done⟩])) ↔
      inner.getLast? = some ⟨.rollback, .raised (.driver error)⟩ := by
  rw [← List.cons_append]
  constructor
  · intro h
    cases h with
    | checkOut hkind hevents => simp at hevents
    | rollback pool' before hevents =>
      obtain ⟨hfront, -⟩ := List.append_singleton_inj.mp hevents
      cases before with
      | nil => cases hfront
      | cons first before =>
        obtain rfl : inner = before ++ [_] := (List.cons.inj hfront).2
        exact List.getLast?_concat
    | giveBack pool' before hevents => cases (List.append_singleton_inj.mp hevents).2
  · intro hlast
    obtain ⟨before, rfl⟩ := List.getLast?_eq_some_iff.mp hlast
    exact .rollback pool (⟨.checkOut pool, .done⟩ :: before) rfl

theorem escapes_kept_iff {error' : DriverError} :
    Escapes error (⟨.checkOut pool, .done⟩ ::
      (inner ++ [⟨.giveBack pool, .raised (.driver error')⟩])) ↔ error' = error := by
  rw [← List.cons_append]
  constructor
  · intro h
    cases h with
    | checkOut hkind hevents => simp at hevents
    | rollback pool' before hevents => cases (List.append_singleton_inj.mp hevents).2
    | giveBack pool' before hevents =>
      cases (List.append_singleton_inj.mp hevents).2
      rfl
  · rintro rfl
    exact .giveBack pool _ rfl

end

/-- The work fails with errors that are translated or of the driver, or of another given kind. If
its last call is a rollback that fails, it fails with that error. -/
structure Fails (other : Fault → Prop) (b : Behaviour Service α) : Prop where
  faults : ∀ s events fault s', b s events (.error fault) s' →
    (∀ event ∈ events, event.IsRegular) →
      Translated fault ∨ (∃ error, fault = .driver error) ∨ other fault
  last : ∀ s events r s' failure, b s events r s' →
    events.getLast? = some ⟨.rollback, .raised failure⟩ → r = .error failure

/-- Errors of the driver are reported, and every report is translated. -/
structure Reports (report : Fault → Option Fault) : Prop where
  driver : ∀ error, report (.driver error) ≠ none
  translated : ∀ fault reported, report fault = some reported → Translated reported

section

variable {other : Fault → Prop} {s s' : Service} {events : List Event} {r : Except Fault α}
variable {b : Behaviour Service α}

theorem isRegular_of_mem {call : Call} {fault : Fault}
    (hregular : ∀ event ∈ events, event.IsRegular) (hmem : ⟨call, .raised fault⟩ ∈ events) :
    ∃ error, fault = .driver error := hregular _ hmem

theorem isRegular_inner {first last : Event}
    (h : ∀ event ∈ first :: (events ++ [last]), event.IsRegular) :
    ∀ event ∈ events, event.IsRegular := fun event hmem =>
  h event (List.mem_cons_of_mem _ (List.mem_append_left _ hmem))

theorem Translates.of_translated {fault : Fault} (h : Translated fault)
    (hescapes : ∀ error, ¬ Escapes error events) :
    Translates other events (.error fault : Except Fault α) := by
  refine ⟨?_, fun error => ?_⟩
  · rintro _ ⟨⟩
    exact .inl h
  · have hdriver : (.error fault : Except Fault α) ≠ .error (.driver error) := by
      simpa using h.ne_driver error
    exact iff_of_false hdriver (hescapes error)

theorem Translates.of_driver {error : DriverError}
    (hescapes : ∀ error', Escapes error' events ↔ error = error') :
    Translates other events (.error (.driver error) : Except Fault α) := by
  refine ⟨?_, fun error' => ?_⟩
  · rintro _ ⟨⟩
    exact .inr (.inl ⟨error, rfl⟩)
  · rw [hescapes]
    simp

theorem Translates.map {β : Type} (h : Translates other events r) (f : α → β) :
    Translates other events (r.map f) := by
  have hmap (fault : Fault) : r.map f = .error fault ↔ r = .error fault := by
    cases r <;> simp [Except.map]
  refine ⟨fun fault hr => h.faults fault ((hmap fault).mp hr), fun error => ?_⟩
  rw [hmap]
  exact h.escapes error

/-- A connection that is given back: only a failing rollback behind a failure escapes. -/
theorem Reverts.translates {pool : Nat} {report : Fault → Option Fault} (hb : Fails other b)
    (hreport : Reports report) (h : Reverts report b s events r s')
    (hregular : ∀ event ∈ events, event.IsRegular) :
    Translates other (⟨.checkOut pool, .done⟩ :: (events ++ [⟨.giveBack pool, .done⟩])) r := by
  cases h with
  | settled run hr =>
    have hnot (error : DriverError) : r ≠ .error (.driver error) := fun hdriver =>
      hreport.driver error (hr _ hdriver)
    refine ⟨?_, fun error => iff_of_false (hnot error) ?_⟩
    · rintro fault rfl
      exact hb.faults _ _ _ _ run hregular
    · rw [escapes_returned_iff]
      exact fun hlast => hnot error (hb.last _ _ _ _ _ run hlast)
  | rolledBack run hreported =>
    refine .of_translated (hreport.translated _ _ hreported) fun error => ?_
    rw [escapes_returned_iff, List.getLast?_concat]
    simp
  | stuck run hreported failure =>
    obtain ⟨error, rfl⟩ := isRegular_of_mem hregular List.mem_concat_self
    refine .of_driver fun error' => ?_
    rw [escapes_returned_iff, List.getLast?_concat]
    simp

theorem Connects.translates {report : Fault → Option Fault} (hb : Fails other b)
    (hreport : Reports report) (h : Connects (Reverts report b) s events r s')
    (hregular : ∀ event ∈ events, event.IsRegular) : Translates other events r := by
  cases h with
  | closed hpool => exact .of_translated (.connection _) fun _ => not_escapes_nil
  | refused hpool fault =>
    obtain ⟨error, rfl⟩ := isRegular_of_mem hregular (List.mem_singleton_self _)
    by_cases hkind : error.kind = .pool
    · rw [checkOutFault_of_pool hkind]
      refine .of_translated (.connection _) fun error' => ?_
      rw [escapes_checkOut_iff]
      rintro ⟨rfl, hother⟩
      exact hother hkind
    · rw [checkOutFault_of_ne_pool hkind]
      refine .of_driver fun error' => ?_
      rw [escapes_checkOut_iff]
      constructor
      · exact And.left
      · rintro rfl
        exact ⟨rfl, hkind⟩
  | used hpool run =>
    exact run.translates hb hreport (isRegular_inner hregular)
  | stuck hpool run fault =>
    obtain ⟨error, rfl⟩ := isRegular_of_mem hregular (List.mem_cons_of_mem _ List.mem_concat_self)
    exact .of_driver fun error' => escapes_kept_iff

theorem Explains.translated {fault : Fault} (h : Explains events fault)
    (hregular : ∀ event ∈ events, event.IsRegular) :
    Translated fault ∨ ∃ error, fault = .driver error := by
  cases h with
  | raised hmem => exact .inr (isRegular_of_mem hregular hmem)
  | unreadable hmem hrows =>
    obtain ⟨entries, rfl⟩ := hregular _ hmem
    rw [Entries.mapM_ofValue_object] at hrows
    cases hrows
  | missing message code detail => exact .inl (.database message code detail)

theorem CursorCalls.getLast?_ne_rollback (h : CursorCalls events) (ending : Ending) :
    events.getLast? ≠ some ⟨.rollback, ending⟩ := by
  intro hlast
  cases h.isCursor _ (List.mem_of_getLast? hlast)

theorem looks_fails (named : Bool) {b : Behaviour Service α}
    (hb : ∀ s events r s', b s events r s' → Reads s events r s') :
    Fails other (Looks named b) := by
  refine ⟨fun s events fault s' h hregular => or_assoc.mp (.inl ?_),
    fun s events r s' failure h hlast => ?_⟩
  · cases h with
    | stopped run =>
      cases run with
      | refused fault => exact .inr (isRegular_of_mem hregular (List.mem_singleton_self _))
      | used run =>
        exact ((hb _ _ _ _ run).explained _ rfl).translated (isRegular_inner hregular)
    | unfinished run fault =>
      exact .inr (isRegular_of_mem hregular List.mem_concat_self)
  · cases h with
    | stopped run =>
      have hcursor := run.cursorCalls fun _ h => (hb _ _ _ _ h).statements
      exact absurd hlast (hcursor.getLast?_ne_rollback _)
    | unfinished run fault =>
      rw [List.getLast?_concat] at hlast
      simpa using hlast
    | looked run =>
      rw [List.getLast?_concat] at hlast
      simp at hlast

theorem attempts_fails {sql : String} {readOnly : Bool} {timeout : Int}
    {start finish : Number.Double} :
    Fails (Oversizes timeout) (AttemptsAt (.ok start) (.ok finish) sql readOnly timeout) := by
  refine ⟨fun s events fault s' h hregular => ?_, fun s events r s' failure h hlast => ?_⟩
  · generalize hr : (.error fault : Except Fault (List Entries)) = r at h
    cases h with
    | untimed hstart => cases hstart
    | stopped run =>
      cases hr
      rcases run.stopsAt with ⟨hcall, hfront, hclosing⟩ | ⟨hlarge, -⟩
      · exact .inr (.inl (isRegular_of_mem hregular List.mem_append_cons_self))
      · exact .inr (.inr hlarge)
    | uncommitted run fault =>
      cases hr
      exact .inr (.inl (isRegular_of_mem hregular List.mem_concat_self))
    | @committed _ rows _ run =>
      obtain ⟨result, hresult, rfl⟩ := run.finished
      -- The rows of a regular run are objects, so that reading them cannot fail.
      have hobjects : ∃ entries : List Entries, rows = entries.map Value.object := by
        cases hresult with
        | none => exact ⟨[], rfl⟩
        | fetched rows => exact hregular ⟨.fetchAll, .fetched rows⟩ (by simp [finishedCursor])
      obtain ⟨entries, rfl⟩ := hobjects
      have hread : settled (.ok finish) (entries.map Value.object) = .ok entries :=
        settled_eq_ok_iff.mpr ⟨⟨finish, rfl⟩, Entries.mapM_ofValue_object entries⟩
      rw [hread] at hr
      cases hr
  · cases h.isRollback _ (List.mem_of_getLast? hlast)

end

theorem queryReport_reports : Reports queryReport := by
  refine ⟨fun error => by simp [queryReport], fun fault reported h => ?_⟩
  cases fault with
  | driver error =>
    cases h
    unfold queryError
    split <;> exact .database _ _ _
  | _ => cases h

theorem tablesReport_reports : Reports tablesReport := by
  refine ⟨fun error => by simp [tablesReport], fun fault reported h => ?_⟩
  cases fault with
  | driver error =>
    cases h
    exact .database _ _ _
  | _ => cases h

theorem detailsReport_reports (schema table : String) : Reports (detailsReport schema table) := by
  refine ⟨fun error => by simp [detailsReport], fun fault reported h => ?_⟩
  cases fault with
  | driver error =>
    cases h
    exact .database _ _ _
  | service error => cases error with
    | database message code detail =>
      cases h
      exact .database _ _ _
    | _ => cases h
  | _ => cases h

section

variable {other : Fault → Prop} {s s' : Service} {events : List Event}

theorem Describes.translates {schema table : String} {r : Except Fault TableRows}
    (h : Describes schema table s events r s') (hregular : ∀ event ∈ events, event.IsRegular) :
    Translates other events r := by
  cases h with
  | unnamed hname message => exact .of_translated (.database _ _ _) fun _ => not_escapes_nil
  | unquotable hquery => exact .of_translated (.unsafeIdentifier _ _) fun _ => not_escapes_nil
  | @looked _ _ sampleQuery hquery _ _ _ run =>
    have hfails : Fails other (Looks true (ReadsTable schema table sampleQuery)) :=
      looks_fails true fun _ _ _ _ => ReadsTable.reads
    exact (run.translates hfails (detailsReport_reports schema table) hregular).map _

/-- A probe reports every error of the driver, also of the checkout and the rollback. -/
theorem Probes.translated {fault : Fault} (h : Probes s events (.error fault) s')
    (hregular : ∀ event ∈ events, event.IsRegular) : Translated fault := by
  have hreported {fault reported : Fault} (h : probeReport fault = some reported) :
      Translated reported := by
    cases fault with
    | driver error => cases h; exact .database _ _ _
    | service error => cases error with
      | connection message => cases h; exact .database _ _ _
      | _ => cases h
    | _ => cases h
  have hfault {fault : Fault} (h : probeReport fault = none)
      (hfault : Translated fault ∨ ∃ error, fault = .driver error) : Translated fault := by
    rcases hfault with htranslated | ⟨error, rfl⟩
    · exact htranslated
    · cases h
  cases h with
  | unreached run hreport => exact hreported hreport
  | passed run hreport =>
    refine hfault hreport ?_
    cases run with
    | closed hpool => exact .inl (.connection _)
    | refused hpool fault =>
      obtain ⟨error, rfl⟩ := isRegular_of_mem hregular (List.mem_singleton_self _)
      by_cases hkind : error.kind = .pool
      · rw [checkOutFault_of_pool hkind]
        exact .inl (.connection _)
      · rw [checkOutFault_of_ne_pool hkind]
        exact .inr ⟨error, rfl⟩
    | used hpool run =>
      have hlooks : Fails (fun _ => False) (Looks false (Reads : Behaviour Service Unit)) :=
        looks_fails false fun _ _ _ _ => id
      simpa only [or_false] using hlooks.faults _ _ _ _ run (isRegular_inner hregular)
    | stuck hpool run fault =>
      exact .inr (isRegular_of_mem hregular (List.mem_cons_of_mem _ List.mem_concat_self))

theorem query_translates {sql : String} {readOnly : Bool} :
    (query sql readOnly).ShowsBy Stage.timed fun s events r _ =>
      (∀ n fault, s.2 n ≠ .error fault) → (∀ event ∈ events, event.IsRegular) →
        Translates (Oversizes s.1.settings.statementTimeout) events r := by
  refine query_timed.mono fun s events r s' h hclock hregular => ?_
  obtain ⟨run, -⟩ := h
  cases hstart : s.2 0 with
  | error fault => exact absurd hstart (hclock 0 fault)
  | ok start =>
    cases hfinish : s.2 1 with
    | error fault => exact absurd hfinish (hclock 1 fault)
    | ok finish =>
      rw [hstart, hfinish] at run
      exact run.translates attempts_fails queryReport_reports hregular

/-- The fault of a query whose time limit is too large to be written. -/
inductive Operation.Oversizes (s : Service) : Operation → Fault → Prop where
  | query {sql : String} {readOnly : Bool}
      (hlarge : Number.fits s.settings.statementTimeout = false) :
      Oversizes s (.query sql readOnly) .oversized

/-- If the clock runs and every call succeeds or raises an error of the driver, then an operation
fails with a fault of the service or, unless it is a probe, with an error that escapes; a query may
also have a time limit that is too large. -/
theorem Operation.driver_error_iff_escapes (operation : Operation) :
    operation.run.ShowsBy Stage.timed fun s events r _ =>
      (∀ n fault, s.2 n ≠ .error fault) → (∀ event ∈ events, event.IsRegular) →
        (∀ fault, r = .error fault →
          Translated fault ∨ (∃ error, fault = .driver error) ∨ operation.Oversizes s.1 fault) ∧
        ∀ error, r = .error (.driver error) ↔ operation ≠ .probe ∧ Escapes error events := by
  have htranslates {s : Service} {r : Except Fault Unit} {events : List Event}
      (h : Translates (operation.Oversizes s) events r) (hother : operation ≠ .probe) :
      (∀ fault, r = .error fault →
          Translated fault ∨ (∃ error, fault = .driver error) ∨ operation.Oversizes s fault) ∧
        ∀ error, r = .error (.driver error) ↔ operation ≠ .probe ∧ Escapes error events :=
    ⟨h.faults, fun error => by rw [h.escapes, and_iff_right hother]⟩
  cases operation with
  | probe =>
    refine (Act.shows_iff_showsBy_timed.mp probe_shows).mono ?_
    rintro s events r s' h - hregular
    refine ⟨?_, fun error => iff_of_false ?_ fun h => h.1 rfl⟩
    · rintro fault rfl
      exact .inl (h.translated hregular)
    · rintro rfl
      exact (h.translated hregular).ne_driver error rfl
  | query sql readOnly =>
    refine (Operation.showsBy_drop query_translates).mono ?_
    rintro s events r s' ⟨found, h, rfl⟩ hclock hregular
    have htranslated := (h hclock hregular).map fun _ => ()
    refine htranslates ⟨fun fault hfault => ?_, htranslated.escapes⟩ (by simp)
    refine (htranslated.faults fault hfault).imp_right (.imp_right ?_)
    rintro ⟨rfl, hlarge⟩
    exact .query hlarge
  | tables =>
    refine (Operation.showsBy_drop (Act.shows_iff_showsBy_timed.mp tables_shows)).mono ?_
    rintro s events r s' ⟨found, h, rfl⟩ - hregular
    have hlooks : Fails (Operation.tables.Oversizes s.1) (Looks true (Fetches tablesQuery [])) :=
      looks_fails true fun _ _ _ _ => Fetches.reads
    exact htranslates ((h.translates hlooks tablesReport_reports hregular).map _) (by simp)
  | tableDetails schema table =>
    refine (Operation.showsBy_drop (Act.shows_iff_showsBy_timed.mp tableDetails_shows)).mono ?_
    rintro s events r s' ⟨found, h, rfl⟩ - hregular
    exact htranslates ((h.translates hregular).map _) (by simp)

end

/-- An error of the driver at the checkout is the fault of the operation, as it escapes. -/
theorem driver_error_iff_escapes_checkOut :
    ∃ events error, refusal = .driver error ∧ Escapes error events ∧
      ((Operation.query "SELECT 1" false).run.start
        (openStage { checkOut := [some (.error refusal)] })).1 = .error refusal := by
  obtain ⟨events, hjournal, h⟩ := (Operation.query "SELECT 1" false).driver_error_iff_escapes
    (openStage { checkOut := [some (.error refusal)] })
  obtain rfl : events = [⟨.checkOut 0, .raised refusal⟩] := hjournal.symm
  have hclock : ∀ n fault, (openStage { checkOut := [some (.error refusal)] }).timed.2 n ≠
      .error fault := by
    intro n fault hreading
    cases n <;> cases hreading
  have hescapes : Escapes ⟨.operational, "refused", none, none⟩
      [⟨.checkOut 0, .raised refusal⟩] := .checkOut (by decide) rfl
  refine ⟨_, _, rfl, hescapes, ((h hclock ?_).2 _).mpr ⟨by simp, hescapes⟩⟩
  intro event hmem
  obtain rfl := List.mem_singleton.mp hmem
  exact ⟨_, rfl⟩

/-- A new connection is refused at the checkout; or a statement fails and then the rollback. -/
theorem refusal_untranslated :
    (((Operation.query "SELECT 1" false).run.start
        (openStage { checkOut := [some (.error refusal)] })).1 = .error refusal ∧
      ((Operation.query "SELECT 1" false).run.start
        (openStage { execute := [some (.error refusal)], rollback := [some (.error refusal)] })).1 =
          .error refusal) ∧
    ¬ Translated refusal := by
  refine ⟨⟨rfl, rfl⟩, ?_⟩
  intro h
  cases h

end Service

end QueryGate
