import QueryGate.Proofs.Sql.Disguise

/-!
# Splitting texts one after the other

Where the scan of a text ends decides what another text behind it can do to its statements. If it
ends in plain SQL, a separator keeps the statements of both texts apart, and a line feed before the
separator does so behind a line comment too. If it ends in a quoted text or block comment, nothing
that leaves it open adds a statement: what follows only makes the last statement longer.
-/

namespace QueryGate.Sql

open QueryGate.Text

/-- The stretches of a text are the earlier ones and the last one, in which the scan of the text
ends as it does in the text. -/
structure EndsIn (cs : List Char) (earlier : List (List Char)) (last : List Char) : Prop where
  stretches : stretches cs = earlier ++ [last]
  region : regionAfter .code last = regionAfter .code cs

theorem exists_endsIn (cs : List Char) : ∃ earlier last, EndsIn cs earlier last := by
  obtain ⟨-, hended⟩ := undivided_first .code cs
  by_cases hmore : (cut .code cs).2 = []
  · have hcut : Undivided .code cs := undivided_iff.mpr hmore
    exact ⟨[], cs, stretches_of_undivided hcut, rfl⟩
  · obtain ⟨rest, hcs, hrest⟩ := exists_separator hmore
    have hlength := length_lt_of_separator hcs
    obtain ⟨earlier, last, hstretches, hregion⟩ := exists_endsIn rest
    refine ⟨(cut .code cs).1 :: earlier, last, ?_, ?_⟩
    · rw [stretches, hrest, hstretches, List.cons_append]
    · have hapart : StartsApart (';' :: rest) := startsApart_cons (by decide) rest
      rw [hcs, regionAfter_append hapart, hended hmore, hregion]
      rfl
termination_by cs.length

theorem joined_toList {earlier rest : List (List Char)} {first last : List Char}
    (h : first :: rest = earlier ++ [last]) (more : List Char × List (List Char)) :
    (joined first rest more).1 :: (joined first rest more).2 =
      earlier ++ (last ++ more.1) :: more.2 := by
  induction earlier generalizing first rest with
  | nil =>
    cases h
    rfl
  | cons next earlier ih =>
    cases rest with
    | nil => simp at h
    | cons second rest =>
      obtain ⟨rfl, hrest⟩ := List.cons.inj h
      rw [joined, ih hrest, List.cons_append]

section

variable {cs last more : List Char} {earlier : List (List Char)}

/-- The last stretch of the first text grows into the first stretch of the second one. -/
theorem EndsIn.stretches_append (h : EndsIn cs earlier last) (hjoins : Joins .code cs more) :
    Sql.stretches (cs ++ more) =
      earlier ++ (last ++ (cut (regionAfter .code cs) more).1) ::
        (cut (regionAfter .code cs) more).2 := by
  rw [Sql.stretches, hjoins.cut_append]
  exact joined_toList h.stretches _

theorem EndsIn.trim_ne_nil (h : EndsIn cs earlier last) (hregion : regionAfter .code cs ≠ .code) :
    trim last ≠ [] := by
  intro hnil
  have hblank : Blank last := trim_eq_nil_iff.mp hnil
  have hplain : ∀ c ∈ last, IsPlain c := fun c hc => isPlain_of_isBlank (hblank c hc)
  apply hregion
  rw [← h.region, ← List.append_nil last, regionAfter_plain_append hplain]
  rfl

end

/-- The statements among stretches. -/
def statementsOf (stretches : List (List Char)) : List (List Char) :=
  (stretches.map trim).filter fun statement => !statement.isEmpty

theorem splitChars_eq_statementsOf (cs : List Char) :
    splitChars cs = statementsOf (stretches cs) := rfl

theorem statementsOf_append (front back : List (List Char)) :
    statementsOf (front ++ back) = statementsOf front ++ statementsOf back := by
  simp [statementsOf]

theorem statementsOf_cons (stretch : List Char) (rest : List (List Char)) :
    statementsOf (stretch :: rest) = statementsOf [stretch] ++ statementsOf rest :=
  statementsOf_append [stretch] rest

theorem statementsOf_singleton {stretch : List Char} (h : trim stretch ≠ []) :
    statementsOf [stretch] = [trim stretch] := by
  simp [statementsOf, h]

theorem statementsOf_append_blank {back : List Char} (h : Blank back) (stretch : List Char) :
    statementsOf [stretch ++ back] = statementsOf [stretch] := by
  simp [statementsOf, trim_append_blank stretch h]

theorem splitChars_append_separator {front : List Char} (h : regionAfter .code front = .code)
    (back : List Char) :
    splitChars (front ++ ';' :: back) = splitChars front ++ splitChars back := by
  obtain ⟨earlier, last, hends⟩ := exists_endsIn front
  have hjoins : Joins .code front (';' :: back) :=
    (startsApart_cons (by decide) back).joins .code front
  have hcut : cut .code (';' :: back) = ([], stretches back) := cut_separate rfl
  simp only [splitChars_eq_statementsOf]
  rw [hends.stretches_append hjoins, h, hcut, List.append_nil, hends.stretches,
    ← statementsOf_append, List.append_assoc, List.singleton_append]

/-- With a line feed before it, a separator does so behind a line comment too. -/
theorem splitChars_append_lineFeed {front : List Char}
    (h : regionAfter .code front = .code ∨ regionAfter .code front = .line) (back : List Char) :
    splitChars (front ++ '\n' :: ';' :: back) = splitChars front ++ splitChars back := by
  obtain ⟨earlier, last, hends⟩ := exists_endsIn front
  have hjoins : Joins .code front ('\n' :: ';' :: back) :=
    (startsApart_cons (by decide) (';' :: back)).joins .code front
  have hfeed : Blank ['\n'] := by simp [Blank, isBlank, isWhiteSpace]
  simp only [splitChars_eq_statementsOf]
  rw [hends.stretches_append hjoins, cut_lineFeed_separator h, hends.stretches]
  calc statementsOf (earlier ++ (last ++ ['\n']) :: stretches back)
      = statementsOf earlier ++
          (statementsOf [last ++ ['\n']] ++ statementsOf (stretches back)) := by
        rw [statementsOf_append, statementsOf_cons]
    _ = statementsOf (earlier ++ [last]) ++ statementsOf (stretches back) := by
        rw [statementsOf_append_blank hfeed, statementsOf_append, List.append_assoc]

/-- The quoted text or block comment in which the first text ends goes on through the second one:
nothing in the second text closes it, nor do both texts together where they meet. -/
inductive Continues (front more : List Char) : Region → Prop where
  | single (hmore : '\x27' ∉ more) : Continues front more .single
  | double (hmore : '"' ∉ more) : Continues front more .double
  | block (hmore : ¬ ['*', '/'] <:+: more)
      (hseam : ¬ (front.getLast? = some '*' ∧ more.head? = some '/')) :
      Continues front more .block

theorem throughQuote_of_notMem {delimiter : Char} {cs : List Char} (h : delimiter ∉ cs) :
    throughQuote delimiter cs = (cs, []) := by
  fun_induction throughQuote delimiter cs with
  | case1 => rfl
  | case2 => rfl
  | case3 => exact absurd List.mem_cons_self h
  | case4 => exact absurd List.mem_cons_self h
  | case5 c d rest hc ih => rw [ih fun hmem => h (List.mem_cons_of_mem _ hmem)]

theorem throughBlockEnd_of_not_infix {cs : List Char} (h : ¬ ['*', '/'] <:+: cs) :
    throughBlockEnd cs = (cs, []) := by
  fun_induction throughBlockEnd cs with
  | case1 => rfl
  | case2 rest => exact absurd ⟨[], rest, rfl⟩ h
  | case3 c rest hc ih => rw [ih fun hinfix => h (List.infix_cons hinfix)]

/-- Where the scan enters a quoted text or stays in it, the character behind the one at hand does
not matter. -/
private theorem move_quoted {entered region : Region} {c : Char}
    (h : entered.move c none = .one region) (hregion : region = .single ∨ region = .double)
    (next : Option Char) : entered.move c next = .one region := by
  cases entered with
  | code => simp only [Region.move_code] at h ⊢; grind
  | line => simp only [Region.move_line] at h ⊢; exact h
  | block => simp only [Region.move_block] at h ⊢; grind
  | single => simp only [Region.move_single] at h ⊢; grind
  | double => simp only [Region.move_double] at h ⊢; grind

private theorem move_commented {entered : Region} {c : Char} {next : Option Char}
    (h : entered.move c none = .one .block) (hopen : ¬ (c = '*' ∧ next = some '/')) :
    entered.move c next = .one .block := by
  cases entered with
  | code => simp only [Region.move_code] at h; grind
  | line => simp only [Region.move_line] at h; grind
  | block => rw [Region.move_block, if_neg hopen]
  | single => simp only [Region.move_single] at h; grind
  | double => simp only [Region.move_double] at h; grind

section

variable {front more : List Char} {region : Region}

theorem Continues.ne_code (h : Continues front more region) : region ≠ .code := by
  cases h <;> simp

theorem Continues.undivided (h : Continues front more region) : Undivided region more := by
  cases h with
  | single hmore => rw [Undivided, cut_single, throughQuote_of_notMem hmore]; simp [cut, prepend]
  | double hmore => rw [Undivided, cut_double, throughQuote_of_notMem hmore]; simp [cut, prepend]
  | block hmore _ =>
    rw [Undivided, cut_block, throughBlockEnd_of_not_infix hmore]
    simp [cut, prepend]

theorem Continues.joins (h : Continues front more (regionAfter region front)) :
    Joins region front more := by
  intro c hc entered hmove
  generalize regionAfter region front = ended at h hmove
  cases h with
  | single _ => exact move_quoted hmove (.inl rfl) _
  | double _ => exact move_quoted hmove (.inr rfl) _
  | block _ hseam =>
    apply move_commented hmove
    rintro ⟨rfl, hslash⟩
    exact hseam ⟨hc, hslash⟩

/-- What leaves the last statement open only makes it longer. -/
theorem Continues.splitChars_append (h : Continues front more (regionAfter .code front)) :
    ∃ earlier last longer, splitChars front = earlier ++ [last] ∧
      splitChars (front ++ more) = earlier ++ [longer] ∧ last <+: longer := by
  obtain ⟨earlier, last, hends⟩ := exists_endsIn front
  have hcut : cut (regionAfter .code front) more = (more, []) := h.undivided
  have hlast : trim last ≠ [] := hends.trim_ne_nil h.ne_code
  have hstart := trim_prefix_trim_append hlast more
  have hlonger : trim (last ++ more) ≠ [] := fun hnil => hlast (List.prefix_nil.mp (hnil ▸ hstart))
  refine ⟨statementsOf earlier, trim last, trim (last ++ more), ?_, ?_, hstart⟩
  · rw [splitChars_eq_statementsOf, hends.stretches, statementsOf_append,
      statementsOf_singleton hlast]
  · rw [splitChars_eq_statementsOf, hends.stretches_append h.joins, hcut, statementsOf_append,
      statementsOf_singleton hlonger]

end

/-- Splitting goes along with putting texts one after the other. Behind a text whose scan ends in
plain SQL, a separator gives the statements of both texts; behind one whose scan ends there or in a
line comment, a line feed and a separator do. A text whose scan ends in a quoted text or block
comment gets no new statement from what leaves it open, whatever separators that holds; only its
last statement grows. -/
theorem split_composes (front back : String) :
    (regionAfter .code front.toList = .code →
      split (front ++ ";" ++ back) = split front ++ split back) ∧
    (regionAfter .code front.toList = .code ∨ regionAfter .code front.toList = .line →
      split (front ++ "\n" ++ ";" ++ back) = split front ++ split back) ∧
    ∀ more : String, Continues front.toList more.toList (regionAfter .code front.toList) →
      (split (front ++ more)).length = (split front).length ∧
        (split (front ++ more)).dropLast = (split front).dropLast ∧
        ∃ last ∈ (split front).getLast?, ∃ longer ∈ (split (front ++ more)).getLast?,
          last.toList <+: longer.toList := by
  refine ⟨fun h => ?_, fun h => ?_, fun more h => ?_⟩
  · have htext : (front ++ ";" ++ back).toList = front.toList ++ ';' :: back.toList := by simp
    rw [split, htext, splitChars_append_separator h, List.map_append, split, split]
  · have htext : (front ++ "\n" ++ ";" ++ back).toList =
        front.toList ++ '\n' :: ';' :: back.toList := by simp
    rw [split, htext, splitChars_append_lineFeed h, List.map_append, split, split]
  · obtain ⟨earlier, last, longer, hfront, hmore, hstart⟩ := h.splitChars_append
    rw [split, split, String.toList_append, hfront, hmore]
    simp [hstart]

/-- Behind a closed quoted text, behind a line comment, and inside a block comment at whose open end
an asterisk stands. -/
theorem split_composes_comments :
    split ("SELECT 'a;''b'" ++ ";" ++ "DROP TABLE t; SELECT 'x") =
        split "SELECT 'a;''b'" ++ split "DROP TABLE t; SELECT 'x" ∧
      split ("SELECT 1 -- a;b" ++ "\n" ++ ";" ++ "DROP TABLE t") =
        split "SELECT 1 -- a;b" ++ split "DROP TABLE t" ∧
      (split ("SELECT 1; /* *" ++ "; DROP TABLE t; * --")).length =
        (split "SELECT 1; /* *").length := by
  have hquoted : regionAfter .code "SELECT 'a;''b'".toList = .code := by decide
  have hline : regionAfter .code "SELECT 1 -- a;b".toList = .line := by decide
  have hblock : regionAfter .code "SELECT 1; /* *".toList = .block := by decide
  have hopen : Continues "SELECT 1; /* *".toList "; DROP TABLE t; * --".toList
      (regionAfter .code "SELECT 1; /* *".toList) := by
    rw [hblock]
    refine .block ?_ (by decide)
    rw [← occursIn_iff_infix]
    decide
  have hfirst := (split_composes "SELECT 'a;''b'" "DROP TABLE t; SELECT 'x").1 hquoted
  have hsecond := (split_composes "SELECT 1 -- a;b" "DROP TABLE t").2.1 (.inr hline)
  have hthird := (split_composes "SELECT 1; /* *" "").2.2 "; DROP TABLE t; * --" hopen
  exact ⟨hfirst, hsecond, hthird.1⟩

/-- A bare separator does not do behind a line comment. -/
example : split ("SELECT 1 -- a;b" ++ ";" ++ "DROP TABLE t") =
    ["SELECT 1 -- a;b;DROP TABLE t"] := by
  decide

end QueryGate.Sql
