import QueryGate.Proofs.Gate.Disguise
import QueryGate.Proofs.Sql.Composition
import QueryGate.Proofs.Sql.Suspicion
import QueryGate.Proofs.Text.LetterCase

/-!
# Letter case and the gate

Queries that differ in the case of ASCII letters only are cut at the same places, into statements
that differ in the case of ASCII letters only. The leading keywords of these are the same, and so is
what counts as a write. No sign that the scanner or the search for a keyword looks at is a letter.

So no gate tells the case of ASCII letters: the queries are suspected of the same, and get the same
verdict at the same position. Other characters may stand in them as they like, also those whose
lower-case form depends on what stands around them, or which are a form of an ASCII letter
themselves.
-/

namespace QueryGate.Sql

open QueryGate.Text

theorem map_toLower_eq_some_iff {sign : Char} (h : sign.isAlpha = false) (next : Option Char) :
    next.map Char.toLower = some sign ↔ next = some sign := by
  cases next with
  | none => simp
  | some c => simp [toLower_eq_iff h]

theorem Region.move_toLower (region : Region) (c : Char) (next : Option Char) :
    region.move c.toLower (next.map Char.toLower) = region.move c next := by
  cases region <;>
    simp (disch := decide) only [Region.move_code, Region.move_line, Region.move_block,
      Region.move_single, Region.move_double, toLower_eq_iff, map_toLower_eq_some_iff]

theorem head?_lowered (cs : List Char) : (lowered cs).head? = cs.head?.map Char.toLower :=
  List.head?_map

theorem Region.move_lowered (region : Region) (c : Char) (rest : List Char) :
    region.move c.toLower (lowered rest).head? = region.move c rest.head? := by
  rw [head?_lowered, region.move_toLower]

theorem cut_lowered (region : Region) (cs : List Char) :
    cut region (lowered cs) = ((lowered (cut region cs).1), (cut region cs).2.map lowered) := by
  induction region, cs using cut.induct with
  | case1 region =>
    rw [cut]
    rfl
  | case2 region c rest hmove ih =>
    rw [cut_separate hmove, lowered_cons, cut_separate ((region.move_lowered c rest).trans hmove),
      stretches, ih]
    rfl
  | case3 region c next rest hmove ih =>
    rw [cut_one hmove, lowered_cons, cut_one ((region.move_lowered c rest).trans hmove), ih]
    rfl
  | case4 region c next d rest hmove ih =>
    have hlowered : region.move c.toLower (some d.toLower) = .two next :=
      (region.move_toLower c (some d)).trans hmove
    rw [cut_two hmove, lowered_cons, lowered_cons, cut_two hlowered, ih]
    rfl
  | case5 region c next hmove => exact absurd hmove (region.move_none_ne_two c next)

theorem stretches_lowered (cs : List Char) :
    stretches (lowered cs) = (stretches cs).map lowered := by
  rw [stretches, cut_lowered, stretches, List.map_cons]

theorem splitChars_lowered (cs : List Char) :
    splitChars (lowered cs) = (splitChars cs).map lowered := by
  have hparts (parts : List (List Char)) :
      statementsOf (parts.map lowered) = (statementsOf parts).map lowered := by
    induction parts with
    | nil => rfl
    | cons stretch rest ih =>
      rw [List.map_cons, statementsOf_cons, ih, statementsOf_cons stretch, List.map_append]
      congr 1
      by_cases hnil : trim stretch = []
      · simp [statementsOf, trim_lowered, hnil]
      · have hlowered : trim (lowered stretch) ≠ [] := by
          rw [trim_lowered]
          exact fun h => hnil (List.map_eq_nil_iff.mp h)
        rw [statementsOf_singleton hnil, statementsOf_singleton hlowered, trim_lowered,
          List.map_singleton]
  simp only [splitChars_eq_statementsOf, stretches_lowered, hparts]

theorem Skipping.move_toLower (skipping : Skipping) (c : Char) (next : Option Char) :
    skipping.move c.toLower (next.map Char.toLower) = skipping.move c next := by
  cases skipping <;>
    simp (disch := decide) only [Skipping.move_between, Skipping.move_line, Skipping.move_block,
      toLower_eq_iff, map_toLower_eq_some_iff, isBlank_toLower]

theorem Skipping.move_lowered (skipping : Skipping) (c : Char) (rest : List Char) :
    skipping.move c.toLower (lowered rest).head? = skipping.move c rest.head? := by
  rw [head?_lowered, skipping.move_toLower]

theorem skip_lowered (skipping : Skipping) (cs : List Char) :
    skip skipping (lowered cs) = lowered (skip skipping cs) := by
  induction skipping, cs using skip.induct with
  | case1 skipping =>
    rw [lowered_nil, skip]
    rfl
  | case2 skipping c rest hmove =>
    rw [skip_stop hmove, lowered_cons, skip_stop ((skipping.move_lowered c rest).trans hmove)]
  | case3 skipping c next rest hmove ih =>
    rw [skip_one hmove, lowered_cons, skip_one ((skipping.move_lowered c rest).trans hmove), ih]
  | case4 skipping c next d rest hmove ih =>
    have hlowered : skipping.move c.toLower (some d.toLower) = .two next :=
      (skipping.move_toLower c (some d)).trans hmove
    rw [skip_two hmove, lowered_cons, lowered_cons, skip_two hlowered, ih]
  | case5 skipping c next hmove => exact absurd hmove (skipping.move_none_ne_two c next)

theorem leadingWord_lowered (cs : List Char) :
    leadingWord (lowered cs) = lowered (leadingWord cs) := by
  rw [leadingWord, skip_lowered, takeWhile_lowered isWord_toLower, leadingWord]

theorem leadingKeyword_lowered (statement : String) :
    leadingKeyword (String.ofList (lowered statement.toList)) = leadingKeyword statement := by
  rw [leadingKeyword, leadingKeyword, String.toList_ofList, leadingWord_lowered]
  cases leadingWord statement.toList with
  | nil => rfl
  | cons c word =>
    have hform := lower_lowered (c :: word)
    rw [lowered_cons] at hform
    simp only [lowered_cons, hform]

/-- Where the statements of stretches stand, each as its offset and its length, if the first stretch
has the given offset and one separator stands between neighbours. -/
def spansFrom (offset : Nat) : List (List Char) → List (Nat × Nat)
  | [] => []
  | stretch :: rest =>
      let own := if trim stretch = [] then [] else
        [(offset + (stretch.takeWhile isBlank).length, (trim stretch).length)]
      own ++ spansFrom (offset + stretch.length + 1) rest

/-- Where the statements of a query stand in it, each as its offset and its length. -/
def statementSpans (query : String) : List (Nat × Nat) := spansFrom 0 (stretches query.toList)

/-- The part of a text with the given offset and length. -/
def slice (cs : List Char) (span : Nat × Nat) : List Char := (cs.drop span.1).take span.2

theorem slice_append (front middle back : List Char) :
    slice (front ++ (middle ++ back)) (front.length, middle.length) = middle := by
  rw [slice, List.drop_left, List.take_left]

theorem trim_eq_slice (front stretch back : List Char) :
    slice (front ++ (stretch ++ back))
      (front.length + (stretch.takeWhile isBlank).length, (trim stretch).length) =
        trim stretch := by
  obtain ⟨blank, hblank⟩ :
      ∃ blank, stretch = stretch.takeWhile isBlank ++ (trim stretch ++ blank) := by
    refine ⟨(stretch.dropWhile isBlank).rtakeWhile isBlank, ?_⟩
    have hback : trim stretch ++ (stretch.dropWhile isBlank).rtakeWhile isBlank =
        stretch.dropWhile isBlank := List.rdropWhile_append_rtakeWhile
    rw [hback, List.takeWhile_append_dropWhile]
  have htext : front ++ (stretch ++ back) =
      (front ++ stretch.takeWhile isBlank) ++ (trim stretch ++ (blank ++ back)) := by
    conv_lhs => rw [hblank]
    simp only [List.append_assoc]
  rw [htext, ← List.length_append, slice_append]

/-- A text is made of its stretches, with a separator between neighbours. -/
theorem intercalate_stretches (cs : List Char) : List.intercalate [';'] (stretches cs) = cs := by
  by_cases hmore : (cut .code cs).2 = []
  · rw [stretches_of_undivided (undivided_iff.mpr hmore), List.intercalate_singleton]
  · obtain ⟨rest, hcs, hrest⟩ := exists_separator hmore
    have hlength := length_lt_of_separator hcs
    have hinner := intercalate_stretches rest
    rw [stretches, hrest]
    rw [stretches] at hinner ⊢
    rw [List.intercalate_cons_cons, hinner]
    conv_rhs => rw [hcs]
    simp
termination_by cs.length

theorem statementsOf_eq_slices (front : List Char) (parts : List (List Char)) :
    statementsOf parts =
      (spansFrom front.length parts).map (slice (front ++ List.intercalate [';'] parts)) := by
  induction parts generalizing front with
  | nil => rfl
  | cons stretch rest ih =>
    -- What follows the stretch in the text: nothing, or a separator and the other stretches.
    obtain ⟨back, hback, hrest⟩ : ∃ back,
        List.intercalate [';'] (stretch :: rest) = stretch ++ back ∧
        statementsOf rest = (spansFrom (front.length + stretch.length + 1) rest).map
          (slice (front ++ (stretch ++ back))) := by
      cases rest with
      | nil => exact ⟨[], by simp, rfl⟩
      | cons next rest =>
        refine ⟨';' :: List.intercalate [';'] (next :: rest), ?_, ?_⟩
        · simp [List.intercalate_cons_cons]
        · have hnext := ih (front ++ stretch ++ [';'])
          simpa [Nat.add_assoc] using hnext
    rw [statementsOf_cons, hback, spansFrom, List.map_append, ← hrest]
    congr 1
    by_cases hnil : trim stretch = []
    · simp [statementsOf, hnil]
    · rw [statementsOf_singleton hnil, if_neg hnil, List.map_singleton, trim_eq_slice]

theorem split_eq_slices (query : String) :
    split query =
      (statementSpans query).map fun span => String.ofList (slice query.toList span) := by
  have hslices := statementsOf_eq_slices [] (stretches query.toList)
  rw [intercalate_stretches, List.nil_append, List.length_nil] at hslices
  rw [split, splitChars_eq_statementsOf, hslices, List.map_map]
  rfl

theorem spansFrom_lowered (offset : Nat) (parts : List (List Char)) :
    spansFrom offset (parts.map lowered) = spansFrom offset parts := by
  induction parts generalizing offset with
  | nil => rfl
  | cons stretch rest ih =>
    have hnil : lowered (trim stretch) = [] ↔ trim stretch = [] := List.map_eq_nil_iff
    simp only [List.map_cons, spansFrom, trim_lowered, takeWhile_lowered isBlank_toLower,
      length_lowered, hnil, ih]

/-- The texts differ at most in the case of ASCII letters. -/
def SameButCase (query other : String) : Prop := lowered query.toList = lowered other.toList

instance (query other : String) : Decidable (SameButCase query other) :=
  inferInstanceAs (Decidable (_ = _))

section

variable {query other : String}

theorem SameButCase.statementSpans_eq (h : SameButCase query other) :
    statementSpans query = statementSpans other := by
  rw [statementSpans, ← spansFrom_lowered, ← stretches_lowered, h, stretches_lowered,
    spansFrom_lowered, statementSpans]

theorem SameButCase.leadingKeyword_eq (h : SameButCase query other) :
    leadingKeyword query = leadingKeyword other := by
  rw [← leadingKeyword_lowered query, h, leadingKeyword_lowered]

theorem SameButCase.isWrite_eq (h : SameButCase query other) : isWrite query = isWrite other := by
  have hmentions : mentionsWrite query = mentionsWrite other := by
    rw [mentionsWrite, mentionsWrite, ← lower_lowered, h, lower_lowered]
  rw [isWrite, isWrite, h.leadingKeyword_eq, hmentions]

theorem SameButCase.forall₂_split (h : SameButCase query other) :
    List.Forall₂ SameButCase (split query) (split other) := by
  have hsplit : (splitChars query.toList).map lowered = (splitChars other.toList).map lowered := by
    rw [← splitChars_lowered, h, splitChars_lowered]
  rw [split, split, List.forall₂_map_left_iff, List.forall₂_map_right_iff]
  rw [← List.forall₂_eq_eq_eq, List.forall₂_map_left_iff, List.forall₂_map_right_iff] at hsplit
  apply hsplit.imp
  intro statement statement' hlowered
  rwa [SameButCase, String.toList_ofList, String.toList_ofList]

end

end QueryGate.Sql

namespace QueryGate

open QueryGate.Text QueryGate.Sql

variable {σ : Type}

/-- What statements that differ in case have in common. -/
structure ReadAlike (statement other : String) : Prop where
  text : SameButCase statement other
  keyword : leadingKeyword statement = leadingKeyword other
  write : isWrite statement = isWrite other

/-- The checks end in the same way: with the same reason, at the same position, and with statements
to blame that differ in case only. -/
inductive SameVerdict : Except Fault Unit → Except Fault Unit → Prop where
  | accepted : SameVerdict (.ok ()) (.ok ())
  | unblamed {reason : String} :
      SameVerdict (.error (.service (.refused reason none none)))
        (.error (.service (.refused reason none none)))
  | blamed {reason statement other : String} {position : Int} (h : SameButCase statement other) :
      SameVerdict (.error (.service (.refused reason (some statement) (some position))))
        (.error (.service (.refused reason (some other) (some position))))

theorem firstWrite_rel {statements others : List String}
    (h : List.Forall₂ SameButCase statements others) (position : Nat) :
    Option.Rel (fun found found' => SameButCase found.1 found'.1 ∧ found.2 = found'.2)
      (firstWrite position statements) (firstWrite position others) := by
  induction h generalizing position with
  | nil => exact .none
  | @cons statement other _ _ hsame _ ih =>
    rw [firstWrite, firstWrite, hsame.isWrite_eq]
    cases isWrite other with
    | true => exact .some ⟨hsame, rfl⟩
    | false => exact ih (position + 1)

section

variable {query other : String}

theorem Sql.SameButCase.allBlank_eq (h : SameButCase query other) :
    allBlank query = allBlank other := by
  have hall (cs : List Char) : (lowered cs).all isBlank = cs.all isBlank := by
    have hcomp : isBlank ∘ Char.toLower = isBlank := funext isBlank_toLower
    rw [lowered, List.all_map, hcomp]
  rw [allBlank, ← hall, h, hall, allBlank]

theorem Sql.SameButCase.findSuspicious_eq (h : SameButCase query other) :
    findSuspicious query = findSuspicious other := by
  have hsearch (items : List PatternItem) :
      matchesSomewhere items query.toList = matchesSomewhere items other.toList := by
    rw [← matchesSomewhere_lowered, h, matchesSomewhere_lowered]
  simp only [findSuspicious, hsearch]

theorem Sql.SameButCase.ending_rel (h : SameButCase query other) (gate : Gate) :
    SameVerdict (gate.ending query) (gate.ending other) := by
  have hfirst := firstWrite_rel h.forall₂_split 1
  rw [Gate.ending, Gate.ending, Gate.judge, Gate.judge, h.allBlank_eq]
  cases allBlank other with
  | true => exact .unblamed
  | false =>
    cases gate.allowWrites with
    | true => exact .accepted
    | false =>
      generalize firstWrite 1 (split query) = found at hfirst
      generalize firstWrite 1 (split other) = found' at hfirst
      cases hfirst with
      | none => exact .accepted
      | @some found found' hfound =>
        obtain ⟨statement, position⟩ := found
        obtain ⟨statement', position'⟩ := found'
        obtain ⟨hsame, rfl⟩ := hfound
        exact .blamed hsame

end

/-- Queries that differ in the case of ASCII letters only are cut at the same places into statements
that differ in case only, with the same keywords and the same class. They show the same patterns,
and every gate accepts both or refuses both for the same reason at the same position. -/
theorem letterCase_irrelevant {query other : String} (h : SameButCase query other) :
    (statementSpans query = statementSpans other ∧
      split query =
        (statementSpans query).map (fun span => String.ofList (slice query.toList span)) ∧
      split other =
        (statementSpans query).map fun span => String.ofList (slice other.toList span)) ∧
    List.Forall₂ ReadAlike (split query) (split other) ∧
    findSuspicious query = findSuspicious other ∧
    ∀ (gate : Gate) (stage : Stage σ),
      SameVerdict ((gate.check query).start stage).1 ((gate.check other).start stage).1 := by
  refine ⟨⟨h.statementSpans_eq, split_eq_slices query, ?_⟩, ?_, h.findSuspicious_eq, ?_⟩
  · rw [h.statementSpans_eq]
    exact split_eq_slices other
  · apply h.forall₂_split.imp
    intro statement statement' hsame
    exact ⟨hsame, hsame.leadingKeyword_eq, hsame.isWrite_eq⟩
  · intro gate stage
    rw [Gate.start_check, Gate.start_check]
    exact h.ending_rel gate

/-- A capital sigma whose lower-case form depends on the letter before it, a dotted capital i, a
Kelvin sign and a long s, in a query whose second statement writes. -/
theorem letterCase_irrelevant_sigma :
    SameButCase "select 'a\u03a3;\u0130' as \u212a; dRoP \u017f -- \u03a3"
        "SELECT 'A\u03a3;\u0130' AS \u212a; DROP \u017f -- \u03a3" ∧
      List.Forall₂ ReadAlike (split "select 'a\u03a3;\u0130' as \u212a; dRoP \u017f -- \u03a3")
        (split "SELECT 'A\u03a3;\u0130' AS \u212a; DROP \u017f -- \u03a3") ∧
      findSuspicious "select 'a\u03a3;\u0130' as \u212a; dRoP \u017f -- \u03a3" =
        findSuspicious "SELECT 'A\u03a3;\u0130' AS \u212a; DROP \u017f -- \u03a3" := by
  have h : SameButCase "select 'a\u03a3;\u0130' as \u212a; dRoP \u017f -- \u03a3"
      "SELECT 'A\u03a3;\u0130' AS \u212a; DROP \u017f -- \u03a3" := by decide +kernel
  obtain ⟨-, hstatements, hsuspicious, -⟩ := letterCase_irrelevant (σ := Unit) h
  exact ⟨h, hstatements, hsuspicious⟩

end QueryGate
