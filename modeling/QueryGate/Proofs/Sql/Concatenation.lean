import QueryGate.Proofs.Sql.Quoting

/-!
# Texts one after the other

The scanner looks one character ahead, so that a text may be read differently once another one
follows it. It is not if the last character of the first text is read as before, and that is so
whenever the text that follows starts with a character that never is the second of a pair. Then the
scan of both is the scan of the first one, continued from the region in which it ends, and the last
stretch of the first text grows into the first stretch of the second one.
-/

namespace QueryGate.Sql

open QueryGate.Text

/-- No character before this one is read together with it. -/
def IsApart (c : Char) : Prop := c ∉ ['*', '-', '/', '\x27', '"']

instance : DecidablePred IsApart := fun _ => inferInstanceAs (Decidable (¬ _))

theorem isApart_of_isBlank {c : Char} (h : isBlank c = true) : IsApart c := by
  have hpairs : ∀ d ∈ ['*', '-', '/', '\x27', '"'], isBlank d = false := by
    simp [isBlank, isWhiteSpace]
  intro hmem
  rw [hpairs c hmem] at h
  cases h

theorem isPlain_of_isBlank {c : Char} (h : isBlank c = true) : IsPlain c := by
  have hothers : ∀ d ∈ ['-', '/', '\x27', '"', ';'], isBlank d = false := by
    simp [isBlank, isWhiteSpace]
  intro hmem
  rw [hothers c hmem] at h
  cases h

theorem IsApart.move {d : Char} (h : IsApart d) (region : Region) (c : Char) :
    region.move c (some d) = region.move c none := by
  simp only [IsApart, List.mem_cons, List.not_mem_nil, or_false, not_or] at h
  obtain ⟨hstar, hdash, hslash, hsingle, hdouble⟩ := h
  cases region with
  | code => simp [Region.move_code, hstar, hdash]
  | line => simp [Region.move_line]
  | block => simp [Region.move_block, hslash]
  | single => simp [Region.move_single, hsingle]
  | double => simp [Region.move_double, hdouble]

/-- The text starts with no character that completes a pair. -/
def StartsApart (cs : List Char) : Prop := ∀ c ∈ cs.head?, IsApart c

theorem startsApart_cons {c : Char} (h : IsApart c) (cs : List Char) : StartsApart (c :: cs) := by
  intro d hd
  cases hd
  exact h

theorem Blank.startsApart {cs : List Char} (h : Blank cs) : StartsApart cs := by
  intro c hc
  exact isApart_of_isBlank (h c (List.mem_of_mem_head? hc))

theorem StartsApart.move_append {more : List Char} (h : StartsApart more)
    (region : Region) (c : Char) (rest : List Char) :
    region.move c (rest ++ more).head? = region.move c rest.head? := by
  cases rest with
  | cons d rest => rfl
  | nil =>
    cases more with
    | nil => rfl
    | cons d more => exact (h d rfl).move region c

theorem Region.move_none_ne_two (region : Region) (c : Char) (next : Region) :
    region.move c none ≠ .two next := by
  cases region with
  | code =>
    simp only [Region.move_code, reduceCtorEq, and_false, if_false]
    split_ifs <;> nofun
  | line => simp [Region.move_line]
  | block => simp [Region.move_block]
  | single =>
    simp only [Region.move_single, reduceCtorEq, if_false]
    split_ifs <;> nofun
  | double =>
    simp only [Region.move_double, reduceCtorEq, if_false]
    split_ifs <;> nofun

theorem Region.eq_code_of_separate {region : Region} {c : Char} {next : Option Char}
    (h : region.move c next = .separate) : region = .code ∧ c = ';' := by
  unfold Region.move at h
  split at h
  case h_5 => exact ⟨rfl, rfl⟩
  all_goals cases h

section

variable {region next : Region} {c d : Char} {rest : List Char}

theorem cut_one (h : region.move c rest.head? = .one next) :
    cut region (c :: rest) = prepend [c] (cut next rest) := by
  rw [cut.eq_def]
  simp only [h]

theorem cut_two (h : region.move c (some d) = .two next) :
    cut region (c :: d :: rest) = prepend [c, d] (cut next rest) := by
  rw [cut.eq_def]
  simp only [List.head?_cons, h]

theorem cut_separate (h : region.move c rest.head? = .separate) :
    cut region (c :: rest) = ([], stretches rest) := by
  rw [cut.eq_def]
  simp only [h]
  rfl

theorem regionAfter_two (h : region.move c (some d) = .two next) :
    regionAfter region (c :: d :: rest) = regionAfter next rest := by
  rw [regionAfter.eq_def]
  simp only [List.head?_cons, h]

theorem regionAfter_separate (h : region.move c rest.head? = .separate) :
    regionAfter region (c :: rest) = regionAfter .code rest := by
  rw [regionAfter.eq_def]
  simp only [h]

end

/-- Whatever region the last character of the first text is read in, if it leads to the region in
which that text ends, it does so with the second text behind it too. -/
def Joins (region : Region) (front more : List Char) : Prop :=
  ∀ c ∈ front.getLast?, ∀ entered : Region,
    entered.move c none = .one (regionAfter region front) →
      entered.move c more.head? = .one (regionAfter region front)

theorem StartsApart.joins {more : List Char} (h : StartsApart more) (region : Region)
    (front : List Char) : Joins region front more := by
  intro c _ entered hmove
  rwa [← List.nil_append more, h.move_append entered c []]

section

variable {region next : Region} {c d : Char} {rest more : List Char}

theorem Joins.move (h : Joins region (c :: rest) more)
    (hmove : region.move c rest.head? = .one next) :
    region.move c (rest ++ more).head? = .one next := by
  cases rest with
  | nil =>
    have hend : regionAfter region [c] = next := by
      rw [regionAfter_one hmove, regionAfter]
    exact hend ▸ h c rfl region (hend ▸ hmove)
  | cons d rest => exact hmove

theorem move_separate_append (hmove : region.move c rest.head? = .separate) :
    region.move c (rest ++ more).head? = .separate := by
  obtain ⟨rfl, rfl⟩ := Region.eq_code_of_separate hmove
  rfl

theorem Joins.tail (h : Joins region (c :: rest) more)
    (hregion : regionAfter region (c :: rest) = regionAfter next rest) :
    Joins next rest more := by
  intro d hd entered hmove
  rw [← hregion] at hmove ⊢
  exact h d (List.mem_getLast?_cons hd) entered hmove

theorem Joins.tail_two (h : Joins region (c :: d :: rest) more)
    (hmove : region.move c (some d) = .two next) : Joins next rest more := by
  intro e he entered hentered
  rw [← regionAfter_two hmove] at hentered ⊢
  exact h e (List.mem_getLast?_cons (List.mem_getLast?_cons he)) entered hentered

end

theorem Joins.regionAfter_append {region : Region} {front more : List Char}
    (h : Joins region front more) :
    regionAfter region (front ++ more) = regionAfter (regionAfter region front) more := by
  induction region, front using regionAfter.induct with
  | case1 region => rfl
  | case2 region c rest hmove ih =>
    have hregion := regionAfter_separate hmove
    rw [hregion, List.cons_append, regionAfter_separate (move_separate_append hmove),
      ih (h.tail hregion)]
  | case3 region c next rest hmove ih =>
    have hregion := regionAfter_one hmove
    rw [hregion, List.cons_append, regionAfter_one (h.move hmove), ih (h.tail hregion)]
  | case4 region c next d rest hmove ih =>
    rw [regionAfter_two hmove, List.cons_append, List.cons_append, regionAfter_two hmove,
      ih (h.tail_two hmove)]
  | case5 region c next hmove => exact absurd hmove (region.move_none_ne_two c next)

theorem regionAfter_append {more : List Char} (h : StartsApart more) (region : Region)
    (front : List Char) :
    regionAfter region (front ++ more) = regionAfter (regionAfter region front) more :=
  (h.joins region front).regionAfter_append

/-- The stretches of two texts together, those of the first text given as the first one and the
others: the last of them and the first stretch of the second text become one. -/
def joined (first : List Char) :
    List (List Char) → List Char × List (List Char) → List Char × List (List Char)
  | [], more => prepend first more
  | next :: rest, more => (first, (joined next rest more).1 :: (joined next rest more).2)

theorem joined_append (front first : List Char) (rest : List (List Char))
    (more : List Char × List (List Char)) :
    joined (front ++ first) rest more = prepend front (joined first rest more) := by
  cases rest with
  | nil => exact prepend_append front first more
  | cons next rest => rfl

/-- The scan of two texts is the scan of the first one, continued where it ends. -/
theorem Joins.cut_append {region : Region} {front more : List Char}
    (h : Joins region front more) :
    cut region (front ++ more) =
      joined (cut region front).1 (cut region front).2 (cut (regionAfter region front) more) := by
  induction region, front using cut.induct with
  | case1 region =>
    rw [cut]
    rfl
  | case2 region c rest hmove ih =>
    have hregion := regionAfter_separate hmove
    rw [cut_separate hmove, hregion, List.cons_append, cut_separate (move_separate_append hmove),
      stretches, stretches, joined, ih (h.tail hregion)]
  | case3 region c next rest hmove ih =>
    have hregion := regionAfter_one hmove
    rw [cut_one hmove, hregion, List.cons_append, cut_one (h.move hmove), ih (h.tail hregion),
      prepend, prepend, joined_append, prepend]
  | case4 region c next d rest hmove ih =>
    rw [cut_two hmove, regionAfter_two hmove, List.cons_append, List.cons_append, cut_two hmove,
      ih (h.tail_two hmove), prepend, prepend, joined_append, prepend]
  | case5 region c next hmove => exact absurd hmove (region.move_none_ne_two c next)

theorem cut_append {more : List Char} (h : StartsApart more) (region : Region)
    (front : List Char) :
    cut region (front ++ more) =
      joined (cut region front).1 (cut region front).2 (cut (regionAfter region front) more) :=
  (h.joins region front).cut_append

theorem cut_lineFeed_separator {region : Region} (h : region = .code ∨ region = .line)
    (rest : List Char) : cut region ('\n' :: ';' :: rest) = (['\n'], stretches rest) := by
  have hseparator : cut .code (';' :: rest) = ([], stretches rest) := cut_separate rfl
  have hmove : region.move '\n' (some ';') = .one .code := by
    rcases h with rfl | rfl <;> rfl
  rw [cut_one hmove, hseparator, prepend, List.append_nil]

/-- The scan finds no separator in the text. -/
def Undivided (region : Region) (cs : List Char) : Prop := cut region cs = (cs, [])

/-- A text in which no separator is found is its own first stretch. -/
theorem undivided_iff {region : Region} {cs : List Char} :
    Undivided region cs ↔ (cut region cs).2 = [] := by
  refine ⟨congrArg Prod.snd, ?_⟩
  rw [Undivided]
  induction region, cs using cut.induct with
  | case1 region =>
    intro _
    rw [cut]
  | case2 region c rest hmove ih =>
    intro hnone
    rw [cut_separate hmove] at hnone
    cases hnone
  | case3 region c next rest hmove ih =>
    intro hnone
    rw [cut_one hmove] at hnone ⊢
    rw [ih hnone]
    rfl
  | case4 region c next d rest hmove ih =>
    intro hnone
    rw [cut_two hmove] at hnone ⊢
    rw [ih hnone]
    rfl
  | case5 region c next hmove => exact absurd hmove (region.move_none_ne_two c next)

theorem Undivided.cut_append {region : Region} {front more : List Char}
    (h : Undivided region front) (hmore : StartsApart more) :
    cut region (front ++ more) = prepend front (cut (regionAfter region front) more) := by
  have hfront : cut region front = (front, []) := h
  rw [Sql.cut_append hmore, hfront, joined]

theorem Undivided.of_append {region : Region} {front more : List Char}
    (h : Undivided region (front ++ more)) (hmore : StartsApart more) :
    Undivided region front := by
  rw [undivided_iff] at h ⊢
  rw [Sql.cut_append hmore] at h
  cases hrest : (cut region front).2 with
  | nil => rfl
  | cons next rest =>
    rw [hrest, joined] at h
    cases h

/-- The decision at a character is the same in the first stretch as in the whole text: what is cut
off there starts with a separator, if anything is. -/
private theorem move_first_stretch {region next : Region} {c : Char} {rest : List Char}
    (hmove : region.move c rest.head? = .one next) :
    region.move c (cut next rest).1.head? = .one next := by
  cases rest with
  | nil =>
    rw [cut]
    exact hmove
  | cons d rest =>
    cases hnext : next.move d rest.head? with
    | separate =>
      obtain ⟨-, rfl⟩ := Region.eq_code_of_separate hnext
      have hapart : IsApart ';' := by decide
      rw [cut_separate hnext]
      exact (hapart.move region c).symm.trans hmove
    | one following =>
      rw [cut_one hnext]
      exact hmove
    | two following =>
      cases rest with
      | nil => exact absurd hnext (next.move_none_ne_two d following)
      | cons e rest =>
        rw [cut_two hnext]
        exact hmove

/-- The first stretch has no separator, and a separator follows it in plain SQL only. -/
theorem undivided_first (region : Region) (cs : List Char) :
    Undivided region (cut region cs).1 ∧
      ((cut region cs).2 ≠ [] → regionAfter region (cut region cs).1 = .code) := by
  induction region, cs using cut.induct with
  | case1 region =>
    rw [cut]
    refine ⟨by rw [Undivided, cut], fun hmore => absurd rfl hmore⟩
  | case2 region c rest hmove ih =>
    obtain ⟨rfl, rfl⟩ := Region.eq_code_of_separate hmove
    rw [cut_separate hmove]
    exact ⟨by rw [Undivided, cut], fun _ => rfl⟩
  | case3 region c next rest hmove ih =>
    have hfirst := move_first_stretch hmove
    rw [cut_one hmove, prepend, List.singleton_append]
    refine ⟨?_, fun hmore => ?_⟩
    · rw [Undivided, cut_one hfirst, ih.1]
      rfl
    · rw [regionAfter_one hfirst]
      exact ih.2 hmore
  | case4 region c next d rest hmove ih =>
    rw [cut_two hmove]
    refine ⟨?_, fun hmore => ?_⟩
    · change cut region (c :: d :: (cut next rest).1) = _
      rw [cut_two hmove, ih.1]
      rfl
    · change regionAfter region (c :: d :: (cut next rest).1) = _
      rw [regionAfter_two hmove]
      exact ih.2 hmore
  | case5 region c next hmove => exact absurd hmove (region.move_none_ne_two c next)

/-- Each text is free of separators, and the scan of each but the last one ends in plain SQL. -/
structure Separate (texts : List (List Char)) : Prop where
  undivided : ∀ cs ∈ texts, Undivided .code cs
  ended : ∀ cs ∈ texts.dropLast, regionAfter .code cs = .code

theorem Separate.cons {first : List Char} {texts : List (List Char)} (h : Separate texts)
    (hfirst : Undivided .code first) (hended : regionAfter .code first = .code) :
    Separate (first :: texts) := by
  refine ⟨List.forall_mem_cons.mpr ⟨hfirst, h.undivided⟩, ?_⟩
  cases texts with
  | nil =>
    intro cs hcs
    cases hcs
  | cons next texts => exact List.forall_mem_cons.mpr ⟨hended, h.ended⟩

/-- If there is more than the first stretch, a separator stands behind it, and the other stretches
are those of the text that follows the separator. -/
theorem exists_separator {region : Region} {cs : List Char} (h : (cut region cs).2 ≠ []) :
    ∃ rest, cs = (cut region cs).1 ++ ';' :: rest ∧ (cut region cs).2 = stretches rest := by
  induction region, cs using cut.induct with
  | case1 region =>
    rw [cut] at h
    exact absurd rfl h
  | case2 region c rest hmove ih =>
    obtain ⟨-, rfl⟩ := Region.eq_code_of_separate hmove
    rw [cut_separate hmove]
    exact ⟨rest, rfl, rfl⟩
  | case3 region c next rest hmove ih =>
    rw [cut_one hmove, prepend] at h ⊢
    obtain ⟨after, hrest, hafter⟩ := ih h
    exact ⟨after, congrArg (c :: ·) hrest, hafter⟩
  | case4 region c next d rest hmove ih =>
    rw [cut_two hmove, prepend] at h ⊢
    obtain ⟨after, hrest, hafter⟩ := ih h
    exact ⟨after, congrArg (c :: d :: ·) hrest, hafter⟩
  | case5 region c next hmove => exact absurd hmove (region.move_none_ne_two c next)

theorem length_lt_of_separator {cs first rest : List Char} (h : cs = first ++ ';' :: rest) :
    rest.length < cs.length := by
  rw [h, List.length_append, List.length_cons]
  omega

theorem separate_stretches (cs : List Char) : Separate (stretches cs) := by
  obtain ⟨hfirst, hended⟩ := undivided_first .code cs
  by_cases hmore : (cut .code cs).2 = []
  · rw [stretches, hmore]
    refine ⟨by simpa using hfirst, ?_⟩
    intro text htext
    cases htext
  · obtain ⟨rest, hcs, hrest⟩ := exists_separator hmore
    have hlength := length_lt_of_separator hcs
    have hseparate := (separate_stretches rest).cons hfirst (hended hmore)
    rwa [← hrest] at hseparate
termination_by cs.length

theorem Undivided.of_blank_append {front cs : List Char} (hfront : Blank front)
    (h : Undivided .code (front ++ cs)) : Undivided .code cs := by
  have hplain : ∀ c ∈ front, ∀ rest, lexeme c rest = (⟨.plain, [c]⟩, rest) :=
    fun c hc rest => (isPlain_of_isBlank (hfront c hc)).lexeme rest
  rw [undivided_iff] at h ⊢
  rwa [cut_plain_append hplain, prepend] at h

theorem Undivided.trim {cs : List Char} (h : Undivided .code cs) : Undivided .code (trim cs) := by
  obtain ⟨front, back, hcs, hfront, hback⟩ := exists_blank_trim_blank cs
  rw [hcs] at h
  exact (Undivided.of_blank_append hfront h).of_append (Blank.startsApart hback)

/-- Blank characters lead back to plain SQL from a line comment only. -/
theorem regionAfter_blank {region : Region} {back : List Char} (hback : Blank back)
    (h : regionAfter region back = .code) : region = .code ∨ region = .line := by
  induction back generalizing region with
  | nil => exact .inl h
  | cons c back ih =>
    obtain ⟨hc, hback⟩ := blank_cons.mp hback
    have hother : ∀ d ∈ ['\x27', '"', '*'], c ≠ d := by
      rintro d hd rfl
      apply isApart_of_isBlank hc
      simp only [List.mem_cons, List.not_mem_nil, or_false] at hd ⊢
      rcases hd with rfl | rfl | rfl <;> decide
    have hmove (next : Option Char) (hregion : region ≠ .code) (hline : region ≠ .line) :
        region.move c next = .one region := by
      cases region with
      | code => exact absurd rfl hregion
      | line => exact absurd rfl hline
      | block => rw [Region.move_block, if_neg fun h => hother '*' (by simp) h.1]
      | single => rw [Region.move_single, if_neg (hother '\x27' (by simp))]
      | double => rw [Region.move_double, if_neg (hother '"' (by simp))]
    by_cases hregion : region = .code
    · exact .inl hregion
    by_cases hline : region = .line
    · exact .inr hline
    rw [regionAfter_one (hmove _ hregion hline)] at h
    exact ih hback h

/-- A text whose scan ends in plain SQL may lose the line feed that ends a comment when it is
trimmed, but nothing else that matters to the scan. -/
theorem regionAfter_trim {cs : List Char} (h : regionAfter .code cs = .code) :
    regionAfter .code (trim cs) = .code ∨ regionAfter .code (trim cs) = .line := by
  obtain ⟨front, back, hcs, hfront, hback⟩ := exists_blank_trim_blank cs
  have hplain : ∀ c ∈ front, IsPlain c := fun c hc => isPlain_of_isBlank (hfront c hc)
  rw [hcs, regionAfter_plain_append hplain,
    regionAfter_append (Blank.startsApart hback)] at h
  exact regionAfter_blank hback h

end QueryGate.Sql
