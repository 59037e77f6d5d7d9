import Mathlib.Data.List.Infix
import QueryGate.Proofs.Sql.Disguise

/-!
# Statements by themselves

A statement is cut out of its query and trimmed, and from then on it is read without the text
around it. Nothing is lost by that: every character of it is read in the same region as in the
query, although whitespace may have been trimmed from within an open comment or quoted text. So
the statement is the only one of itself, and no semicolon of it is a separator.
-/

namespace QueryGate.Sql

open QueryGate.Text

/-- The characters of a text, each with the region in which it is read. -/
def located : Region → List Char → List (Char × Region)
  | _, [] => []
  | region, c :: rest =>
      match region.move c rest.head?, rest with
      | .separate, rest => (c, region) :: located .code rest
      | .one next, rest => (c, region) :: located next rest
      | .two next, d :: rest => (c, region) :: (d, region) :: located next rest
      | .two _, [] => [(c, region)]

section

variable {region next : Region} {c d : Char} {rest : List Char}

theorem located_one (h : region.move c rest.head? = .one next) :
    located region (c :: rest) = (c, region) :: located next rest := by
  rw [located.eq_def]
  simp only [h]

theorem located_two (h : region.move c (some d) = .two next) :
    located region (c :: d :: rest) = (c, region) :: (d, region) :: located next rest := by
  rw [located.eq_def]
  simp only [List.head?_cons, h]

theorem located_separate (h : region.move c rest.head? = .separate) :
    located region (c :: rest) = (c, region) :: located .code rest := by
  rw [located.eq_def]
  simp only [h]

end

theorem map_fst_located (region : Region) (cs : List Char) :
    (located region cs).map Prod.fst = cs := by
  induction region, cs using located.induct with
  | case1 region => rfl
  | case2 region c rest hmove ih => rw [located_separate hmove, List.map_cons, ih]
  | case3 region c next rest hmove ih => rw [located_one hmove, List.map_cons, ih]
  | case4 region c next d rest hmove ih =>
    rw [located_two hmove, List.map_cons, List.map_cons, ih]
  | case5 region c next hmove => exact absurd hmove (region.move_none_ne_two c next)

theorem located_append {more : List Char} (h : StartsApart more) (region : Region)
    (front : List Char) :
    located region (front ++ more) =
      located region front ++ located (regionAfter region front) more := by
  induction region, front using located.induct with
  | case1 region => rfl
  | case2 region c rest hmove ih =>
    rw [located_separate hmove, regionAfter_separate hmove, List.cons_append,
      located_separate ((h.move_append _ _ _).trans hmove), ih, List.cons_append]
  | case3 region c next rest hmove ih =>
    rw [located_one hmove, regionAfter_one hmove, List.cons_append,
      located_one ((h.move_append _ _ _).trans hmove), ih, List.cons_append]
  | case4 region c next d rest hmove ih =>
    rw [located_two hmove, regionAfter_two hmove, List.cons_append, List.cons_append,
      located_two hmove, ih, List.cons_append, List.cons_append]
  | case5 region c next hmove => exact absurd hmove (region.move_none_ne_two c next)

theorem located_plain_append {word : List Char} (hword : ∀ c ∈ word, IsPlain c)
    (rest : List Char) : located .code rest <:+ located .code (word ++ rest) := by
  induction word with
  | nil => exact List.suffix_refl _
  | cons c word ih =>
    rw [List.forall_mem_cons] at hword
    rw [List.cons_append, located_one (hword.1.move _)]
    exact (ih hword.2).trans (List.suffix_cons _ _)

/-- A stretch is read in its text as it is by itself. -/
theorem located_infix_of_mem_stretches {stretch cs : List Char} (h : stretch ∈ stretches cs) :
    located .code stretch <:+: located .code cs := by
  obtain ⟨hfirst, hended⟩ := undivided_first .code cs
  by_cases hmore : (cut .code cs).2 = []
  · have hcut : cut .code cs = (cs, []) := undivided_iff.mpr hmore
    rw [stretches, hcut] at h
    rw [List.mem_singleton.mp h]
  · obtain ⟨rest, hcs, hrest⟩ := exists_separator hmore
    have hapart : StartsApart (';' :: rest) := startsApart_cons (by decide) rest
    have hlocated : located .code cs =
        located .code (cut .code cs).1 ++ (';', .code) :: located .code rest := by
      calc located .code cs = located .code ((cut .code cs).1 ++ ';' :: rest) := by rw [← hcs]
        _ = located .code (cut .code cs).1 ++ located .code (';' :: rest) := by
          rw [located_append hapart, hended hmore]
        _ = _ := by rw [located_separate rfl]
    rw [hlocated]
    rcases List.mem_cons.mp h with rfl | hmem
    · exact (List.prefix_append _ _).isInfix
    · have hlength := length_lt_of_separator hcs
      rw [hrest] at hmem
      have hinner := located_infix_of_mem_stretches hmem
      exact hinner.trans ((List.suffix_cons _ _).trans (List.suffix_append _ _)).isInfix
termination_by cs.length

theorem located_trim (cs : List Char) :
    located .code (trim cs) <:+: located .code cs := by
  obtain ⟨front, back, hcs, hfront, hback⟩ := exists_blank_trim_blank cs
  have hplain : ∀ c ∈ front, IsPlain c := fun c hc => isPlain_of_isBlank (hfront c hc)
  have hbehind : located .code (trim cs) <+: located .code (trim cs ++ back) := by
    rw [located_append (Blank.startsApart hback)]
    exact List.prefix_append _ _
  calc located .code (trim cs) <:+: located .code (trim cs ++ back) := hbehind.isInfix
    _ <:+: located .code (front ++ (trim cs ++ back)) := (located_plain_append hplain _).isInfix
    _ = located .code cs := by rw [← hcs]

theorem located_infix_of_mem_splitChars {statement cs : List Char}
    (h : statement ∈ splitChars cs) : located .code statement <:+: located .code cs := by
  obtain ⟨stretch, hstretch, rfl⟩ := List.mem_map.mp (List.mem_of_mem_filter h)
  exact (located_trim stretch).trans (located_infix_of_mem_stretches hstretch)

/-- A text in which the scan finds no separator has no separator among its lexemes. -/
theorem Undivided.isSeparator_eq_false {cs : List Char} (h : Undivided .code cs) :
    ∀ l ∈ lexemes cs, l.isSeparator = false := by
  rw [undivided_iff] at h
  fun_induction lexemes cs with
  | case1 => simp
  | case2 c rest ih =>
    rw [cut_code_cons] at h
    cases hsep : (lexeme c rest).1.isSeparator with
    | true =>
      rw [hsep, if_pos rfl] at h
      cases h
    | false =>
      rw [hsep, if_neg Bool.false_ne_true, prepend] at h
      exact List.forall_mem_cons.mpr ⟨hsep, ih h⟩

theorem splitChars_of_undivided {cs : List Char} (hcs : Undivided .code cs) (h : Trimmed cs) :
    splitChars cs = [cs] := by
  have htrim : trim cs = cs := h.trim_append []
  rw [splitChars_eq_of_stretches (stretches_of_undivided hcs) (by rw [htrim]; exact h.ne_nil),
    htrim]
  rfl

/-- What a statement is apart from its query, and how it stands in it. -/
structure StandsAlone (query statement : String) : Prop where
  inked : statement ≠ ""
  front : ∀ c ∈ statement.toList.head?, isBlank c = false
  back : ∀ c ∈ statement.toList.getLast?, isBlank c = false
  part : statement.toList <:+: query.toList
  only : split statement = [statement]
  unseparated : ∀ l ∈ lexemes statement.toList, l.isSeparator = false
  /-- The characters are those of a part of the query, and read in the same regions. -/
  sameRegions : located .code statement.toList <:+: located .code query.toList

/-- Every statement of a query stands alone: it is a trimmed part of the query that is read as it is
in the query, it is its own only statement, and no semicolon of it separates anything. -/
theorem statements_standAlone (query : String) :
    ∀ statement ∈ split query, StandsAlone query statement := by
  intro statement hmem
  obtain ⟨cs, hcs, rfl⟩ := List.mem_map.mp hmem
  have hall := areStatements_splitChars query.toList
  have htrimmed := hall.trimmed cs hcs
  have hundivided := hall.undivided cs hcs
  have hregions := located_infix_of_mem_splitChars hcs
  have hpart := hregions.map Prod.fst
  rw [map_fst_located, map_fst_located] at hpart
  constructor
  case inked =>
    rw [ne_eq, ← String.toList_eq_nil_iff, String.toList_ofList]
    exact htrimmed.ne_nil
  case front => simpa only [String.toList_ofList] using htrimmed.head_inked
  case back => simpa only [String.toList_ofList] using htrimmed.last_inked
  case part => simpa only [String.toList_ofList] using hpart
  case only =>
    rw [split, String.toList_ofList, splitChars_of_undivided hundivided htrimmed,
      List.map_singleton]
  case unseparated =>
    simpa only [String.toList_ofList] using hundivided.isSeparator_eq_false
  case sameRegions => simpa only [String.toList_ofList] using hregions

/-- The first statement has lost the line feed that ends its comment, the second one the spaces at
the end of a quoted text that is never closed. -/
theorem statements_standAlone_open :
    StandsAlone "SELECT 'a;b' -- c;d \n; SELECT /* ; */ ';  " "SELECT 'a;b' -- c;d" ∧
      StandsAlone "SELECT 'a;b' -- c;d \n; SELECT /* ; */ ';  " "SELECT /* ; */ ';" :=
  ⟨statements_standAlone _ _ (by decide), statements_standAlone _ _ (by decide)⟩

end QueryGate.Sql
