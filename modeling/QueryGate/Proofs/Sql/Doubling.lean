import QueryGate.Proofs.Sql.Concatenation

/-!
# Doubled delimiters

A scanner need not know doubled delimiters. If every delimiter ends the quoted text that it stands
in, the second character of a doubled one opens the next quoted text at once. So the stretches are
the same, and so are the regions in which both scanners stand, except between the two characters of
a doubled delimiter: there one scanner does not stand at all, and the other stands in plain SQL.
-/

namespace QueryGate.Sql

/-- The decisions of a scanner, from a region, a character and the character after it. -/
abbrev Moves := Region → Char → Option Char → Move

/-- The decisions of a scanner for which every delimiter ends the quoted text that it stands in. -/
def Region.moveSingly : Moves
  | .code, '/', some '*' => .two .block
  | .code, '-', some '-' => .two .line
  | .code, '\x27', _ => .one .single
  | .code, '"', _ => .one .double
  | .code, ';', _ => .separate
  | .line, '\n', _ => .one .code
  | .block, '*', some '/' => .two .code
  | .single, '\x27', _ => .one .code
  | .double, '"', _ => .one .code
  | region, _, _ => .one region

/-- The stretches of a text whose scan starts in the given region: the first one, and those after
the separators. -/
def cutBy (move : Moves) : Region → List Char → List Char × List (List Char)
  | _, [] => ([], [])
  | region, c :: rest =>
      match move region c rest.head?, rest with
      | .separate, rest =>
          let after := cutBy move .code rest
          ([], after.1 :: after.2)
      | .one next, rest => prepend [c] (cutBy move next rest)
      | .two next, d :: rest => prepend [c, d] (cutBy move next rest)
      | .two _, [] => ([c], [])

/-- The statements of a query: its stretches, trimmed, without the empty ones. -/
def splitBy (move : Moves) (query : String) : List String :=
  let stretches := (cutBy move .code query.toList).1 :: (cutBy move .code query.toList).2
  ((stretches.map Text.trim).filter fun statement => !statement.isEmpty).map String.ofList

/-- The region in which the scan of a text stands at an offset. It stands nowhere behind the end,
and not between two characters that are read together. -/
def regionAt (move : Moves) : Region → List Char → Nat → Option Region
  | region, _, 0 => some region
  | _, [], _ + 1 => none
  | region, c :: rest, offset + 1 =>
      match move region c rest.head?, rest, offset with
      | .separate, rest, offset => regionAt move .code rest offset
      | .one next, rest, offset => regionAt move next rest offset
      | .two next, _ :: rest, offset + 1 => regionAt move next rest offset
      | .two _, _, _ => none

section

variable {move : Moves} {region next : Region} {c d : Char} {rest : List Char}

theorem cutBy_separate (h : move region c rest.head? = .separate) :
    cutBy move region (c :: rest) =
      ([], (cutBy move .code rest).1 :: (cutBy move .code rest).2) := by
  rw [cutBy.eq_def]
  simp only [h]

theorem cutBy_one (h : move region c rest.head? = .one next) :
    cutBy move region (c :: rest) = prepend [c] (cutBy move next rest) := by
  rw [cutBy.eq_def]
  simp only [h]

theorem cutBy_two (h : move region c (some d) = .two next) :
    cutBy move region (c :: d :: rest) = prepend [c, d] (cutBy move next rest) := by
  rw [cutBy.eq_def]
  simp only [List.head?_cons, h]

theorem regionAt_separate (h : move region c rest.head? = .separate) (offset : Nat) :
    regionAt move region (c :: rest) (offset + 1) = regionAt move .code rest offset := by
  rw [regionAt.eq_def]
  simp only [h]

theorem regionAt_one (h : move region c rest.head? = .one next) (offset : Nat) :
    regionAt move region (c :: rest) (offset + 1) = regionAt move next rest offset := by
  rw [regionAt.eq_def]
  simp only [h]

theorem regionAt_two (h : move region c (some d) = .two next) (offset : Nat) :
    regionAt move region (c :: d :: rest) (offset + 2) = regionAt move next rest offset := by
  rw [regionAt.eq_def]
  simp only [List.head?_cons, h]

theorem regionAt_two_between (h : move region c (some d) = .two next) :
    regionAt move region (c :: d :: rest) 1 = none := by
  rw [regionAt.eq_def]
  simp only [List.head?_cons, h]

end

theorem cutBy_move (region : Region) (cs : List Char) :
    cutBy Region.move region cs = cut region cs := by
  induction region, cs using cut.induct with
  | case1 region => rfl
  | case2 region c rest hmove ih =>
    rw [cutBy_separate hmove, ih, cut_separate hmove]
    rfl
  | case3 region c next rest hmove ih => rw [cutBy_one hmove, ih, cut_one hmove]
  | case4 region c next d rest hmove ih => rw [cutBy_two hmove, ih, cut_two hmove]
  | case5 region c next hmove => exact absurd hmove (region.move_none_ne_two c next)

/-- At the end of a text, the scanner stands in the region in which its scan ends. -/
theorem regionAt_length (region : Region) (cs : List Char) :
    regionAt Region.move region cs cs.length = some (regionAfter region cs) := by
  induction region, cs using regionAfter.induct with
  | case1 region => rfl
  | case2 region c rest hmove ih =>
    rw [List.length_cons, regionAt_separate hmove, ih, regionAfter_separate hmove]
  | case3 region c next rest hmove ih =>
    rw [List.length_cons, regionAt_one hmove, ih, regionAfter_one hmove]
  | case4 region c next d rest hmove ih =>
    rw [List.length_cons, List.length_cons, regionAt_two hmove, ih, regionAfter_two hmove]
  | case5 region c next hmove => exact absurd hmove (region.move_none_ne_two c next)

/-- The character delimits the quoted texts that are read in the region. -/
inductive Delimits : Region → Char → Prop
  | single : Delimits .single '\x27'
  | double : Delimits .double '"'

/-- The decisions differ at a doubled delimiter only, which takes the scanners from the quoted text
back into it: in one step, or in two steps through plain SQL. -/
theorem moveSingly_cases (region : Region) (c : Char) (next : Option Char) :
    region.moveSingly c next = region.move c next ∨ Delimits region c ∧ next = some c := by
  unfold Region.moveSingly Region.move
  split <;> grind [Delimits]

section

variable {region : Region} {c : Char}

theorem Delimits.move (h : Delimits region c) : region.move c (some c) = .two region := by
  cases h <;> rfl

theorem Delimits.closes (h : Delimits region c) (next : Option Char) :
    region.moveSingly c next = .one .code := by
  cases h <;> rfl

theorem Delimits.opens (h : Delimits region c) (next : Option Char) :
    Region.code.moveSingly c next = .one region := by
  cases h <;> rfl

theorem moveSingly_eq_move {next : Option Char} (h : ∀ after, region.move c next ≠ .two after) :
    region.moveSingly c next = region.move c next := by
  rcases moveSingly_cases region c next with heq | ⟨hdelimits, rfl⟩
  · exact heq
  · exact absurd hdelimits.move (h region)

theorem moveSingly_of_separate {next : Option Char} (h : region.move c next = .separate) :
    region.moveSingly c next = .separate :=
  (moveSingly_eq_move fun _ => by rw [h]; exact Move.noConfusion).trans h

theorem moveSingly_of_one {next : Option Char} {after : Region}
    (h : region.move c next = .one after) : region.moveSingly c next = .one after :=
  (moveSingly_eq_move fun _ => by rw [h]; exact Move.noConfusion).trans h

theorem moveSingly_of_two {d : Char} {after : Region} (h : region.move c (some d) = .two after) :
    region.moveSingly c (some d) = .two after ∨ Delimits region c ∧ d = c ∧ after = region := by
  rcases moveSingly_cases region c (some d) with heq | ⟨hdelimits, hnext⟩
  · exact .inl (heq.trans h)
  · obtain rfl := Option.some.inj hnext
    exact .inr ⟨hdelimits, rfl, Move.two.inj (h.symm.trans hdelimits.move)⟩

theorem Delimits.cutBy_doubled (h : Delimits region c) (rest : List Char) :
    cutBy Region.moveSingly region (c :: c :: rest) =
      prepend [c, c] (cutBy Region.moveSingly region rest) := by
  rw [cutBy_one (h.closes _), cutBy_one (h.opens _)]
  exact (prepend_append [c] [c] _).symm

theorem Delimits.regionAt_between (h : Delimits region c) (rest : List Char) :
    regionAt Region.moveSingly region (c :: c :: rest) 1 = some .code := by
  rw [regionAt_one (h.closes _)]
  rfl

theorem Delimits.regionAt_doubled (h : Delimits region c) (rest : List Char) (offset : Nat) :
    regionAt Region.moveSingly region (c :: c :: rest) (offset + 2) =
      regionAt Region.moveSingly region rest offset := by
  rw [regionAt_one (h.closes _), regionAt_one (h.opens _)]

end

theorem cutBy_moveSingly (region : Region) (cs : List Char) :
    cutBy Region.moveSingly region cs = cut region cs := by
  induction region, cs using cut.induct with
  | case1 region => rfl
  | case2 region c rest hmove ih =>
    rw [cutBy_separate (moveSingly_of_separate hmove), ih, cut_separate hmove]
    rfl
  | case3 region c next rest hmove ih =>
    rw [cutBy_one (moveSingly_of_one hmove), ih, cut_one hmove]
  | case4 region c next d rest hmove ih =>
    rcases moveSingly_of_two hmove with hsame | ⟨hdelimits, rfl, rfl⟩
    · rw [cutBy_two hsame, ih, cut_two hmove]
    · rw [hdelimits.cutBy_doubled, ih, cut_two hmove]
  | case5 region c next hmove => exact absurd hmove (region.move_none_ne_two c next)

/-- The offset lies between the two characters of a doubled delimiter: the scanner stands before
them in a quoted text, and the first one of them does not end it. -/
inductive Between (region : Region) (cs : List Char) : Nat → Prop
  | doubled {quoted : Region} {delimiter : Char} (before : Nat)
      (hquoted : Delimits quoted delimiter)
      (hbefore : regionAt Region.move region cs before = some quoted)
      (hfirst : cs[before]? = some delimiter) (hsecond : cs[before + 1]? = some delimiter) :
      Between region cs (before + 1)

/-- Both scanners stand in the same region at the offset, or both do not stand there, unless it lies
between the characters of a doubled delimiter: there the first one does not stand, and the second
one stands in plain SQL. -/
def Agree (region : Region) (cs : List Char) (offset : Nat) : Prop :=
  regionAt Region.moveSingly region cs offset = regionAt Region.move region cs offset ∨
    Between region cs offset ∧ regionAt Region.move region cs offset = none ∧
      regionAt Region.moveSingly region cs offset = some .code

section

variable {region next : Region} {rest : List Char} {offset : Nat}

theorem Between.append (h : Between next rest offset) (front : List Char)
    (hmove : ∀ k, regionAt Region.move region (front ++ rest) (k + front.length) =
      regionAt Region.move next rest k) :
    Between region (front ++ rest) (offset + front.length) := by
  obtain ⟨before, hquoted, hbefore, hfirst, hsecond⟩ := h
  rw [Nat.add_right_comm]
  refine .doubled _ hquoted ((hmove _).trans hbefore) ?_ ?_
  · rwa [List.getElem?_append_right (Nat.le_add_left _ _), Nat.add_sub_cancel]
  · rwa [Nat.add_right_comm, List.getElem?_append_right (Nat.le_add_left _ _), Nat.add_sub_cancel]

/-- Behind characters that both scanners read into the same region, they agree as they do there. -/
theorem Agree.append (h : Agree next rest offset) (front : List Char)
    (hmove : ∀ k, regionAt Region.move region (front ++ rest) (k + front.length) =
      regionAt Region.move next rest k)
    (hsingly : ∀ k, regionAt Region.moveSingly region (front ++ rest) (k + front.length) =
      regionAt Region.moveSingly next rest k) :
    Agree region (front ++ rest) (offset + front.length) := by
  rw [Agree, hmove, hsingly]
  exact h.imp_right fun ⟨hbetween, hregions⟩ => ⟨hbetween.append front hmove, hregions⟩

end

/-- By induction on the scan: after every step of the first scanner both are in the same region
again, the second one perhaps after two steps. -/
theorem agree (region : Region) (cs : List Char) (offset : Nat) : Agree region cs offset := by
  induction region, cs using cut.induct generalizing offset with
  | case1 region => exact .inl (by cases offset <;> rfl)
  | case2 region c rest hmove ih =>
    cases offset with
    | zero => exact .inl rfl
    | succ offset =>
      exact (ih offset).append [c] (regionAt_separate hmove)
        (regionAt_separate (moveSingly_of_separate hmove))
  | case3 region c next rest hmove ih =>
    cases offset with
    | zero => exact .inl rfl
    | succ offset =>
      exact (ih offset).append [c] (regionAt_one hmove) (regionAt_one (moveSingly_of_one hmove))
  | case4 region c next d rest hmove ih =>
    rcases offset with _ | _ | offset
    · exact .inl rfl
    · -- Between the two characters the first scanner does not stand.
      rcases moveSingly_of_two hmove with hsame | ⟨hdelimits, rfl, rfl⟩
      · exact .inl ((regionAt_two_between hsame).trans (regionAt_two_between hmove).symm)
      · exact .inr ⟨.doubled 0 hdelimits rfl rfl rfl, regionAt_two_between hmove,
          hdelimits.regionAt_between rest⟩
    · rcases moveSingly_of_two hmove with hsame | ⟨hdelimits, rfl, rfl⟩
      · exact (ih offset).append [c, d] (regionAt_two hmove) (regionAt_two hsame)
      · exact (ih offset).append [_, _] (regionAt_two hmove) (hdelimits.regionAt_doubled rest)
  | case5 region c next hmove => exact absurd hmove (region.move_none_ne_two c next)

/-- The statements are the same whether the scanner knows doubled delimiters or not. At every offset
both scanners agree on the region; both end in the same one. -/
theorem split_singly (query : String) :
    splitBy Region.move query = split query ∧ splitBy Region.moveSingly query = split query ∧
      (∀ offset, Agree .code query.toList offset) ∧
      regionAt Region.move .code query.toList query.toList.length =
        some (regionAfter .code query.toList) ∧
      regionAt Region.moveSingly .code query.toList query.toList.length =
        some (regionAfter .code query.toList) := by
  have hend := regionAt_length .code query.toList
  refine ⟨?_, ?_, agree .code query.toList, hend, ?_⟩
  · rw [splitBy, cutBy_move]
    rfl
  · rw [splitBy, cutBy_moveSingly]
    rfl
  · rcases agree .code query.toList query.toList.length with heq | ⟨-, hnone, -⟩
    · exact heq.trans hend
    · rw [hend] at hnone
      cases hnone

example : (List.range 5).map (regionAt Region.moveSingly .code ['\x27', 'a', '\x27', '\x27']) =
    [some .code, some .single, some .single, some .code, some .single] := by decide

end QueryGate.Sql
