import Mathlib.Data.List.Basic
import QueryGate.Proofs.Sql.Lexeme
import QueryGate.Proofs.Text.Trim
import QueryGate.Sql.Statement

/-!
# What stands before the leading keyword

Padding is any mixture of whitespace, open parentheses and closed comments. A text is opened by
its longest padding, and the leading word is the run of word characters right after it. An
unterminated comment is no padding; no word starts at it. Trimming a text leaves its leading word
as it is.

A stretch of a query passes if no word starts it, or if its leading word is safe; behind `WITH`
no write word may occur anywhere in the stretch. This is said of the text as it stands, untrimmed.
The classification of statements agrees with it: a query has no write among its statements exactly
if all of its stretches pass.
-/

namespace QueryGate.Sql

open QueryGate.Text

/-- A mixture of whitespace, open parentheses, line comments with their line feed, and block
comments with the first `*/` after their opening characters. -/
inductive Padding : List Char → Prop where
  | nil : Padding []
  | blank {c : Char} {rest : List Char} (hc : isBlank c = true) (tail : Padding rest) :
      Padding (c :: rest)
  | paren {rest : List Char} (tail : Padding rest) : Padding ('(' :: rest)
  | line {body rest : List Char} (hbody : '\n' ∉ body) (tail : Padding rest) :
      Padding ('-' :: '-' :: (body ++ '\n' :: rest))
  | block {body rest : List Char} (hbody : ¬ ['*', '/'] <:+: body) (tail : Padding rest) :
      Padding ('/' :: '*' :: (body ++ '*' :: '/' :: rest))

/-- No padding stands at the front of the text. -/
def Bare (cs : List Char) : Prop := ∀ front, Padding front → front <+: cs → front = []

/-- The text is opened by the padding and goes on with the rest. -/
structure Opens (cs padding rest : List Char) : Prop where
  append : cs = padding ++ rest
  padding : Padding padding
  bare : Bare rest

theorem Padding.append {front more : List Char} (h : Padding front) (h' : Padding more) :
    Padding (front ++ more) := by
  induction h with
  | nil => exact h'
  | blank hc _ ih => exact .blank hc ih
  | paren _ ih => exact .paren ih
  | @line body rest hbody _ ih => simpa using Padding.line hbody ih
  | @block body rest hbody _ ih => simpa using Padding.block hbody ih

/-- Every text is opened by some padding. -/
theorem exists_opens (cs : List Char) : ∃ padding rest, Opens cs padding rest := by
  by_cases hbare : Bare cs
  · exact ⟨[], cs, rfl, .nil, hbare⟩
  · simp only [Bare, not_forall] at hbare
    obtain ⟨front, hfront, ⟨more, hmore⟩, hne⟩ := hbare
    have hlength : more.length < cs.length := by
      have := List.length_pos_iff.mpr hne
      rw [← hmore, List.length_append]
      omega
    obtain ⟨padding, rest, happend, hpadding, hrest⟩ := exists_opens more
    exact ⟨front ++ padding, rest, by rw [← hmore, happend, List.append_assoc],
      hfront.append hpadding, hrest⟩
termination_by cs.length

theorem Skipping.move_between (c : Char) (next : Option Char) :
    Skipping.between.move c next =
      if c = '(' then .one .between
      else if c = '-' ∧ next = some '-' then .two .line
      else if c = '/' ∧ next = some '*' then .two .block
      else if isBlank c then .one .between else .stop := by
  unfold Skipping.move
  split <;> grind

theorem Skipping.move_line (c : Char) (next : Option Char) :
    Skipping.line.move c next = .one (if c = '\n' then .between else .line) := by
  unfold Skipping.move
  split
  case h_5 => rfl
  case h_6 hc => rw [if_neg hc]
  all_goals contradiction

theorem Skipping.move_block (c : Char) (next : Option Char) :
    Skipping.block.move c next =
      if c = '*' ∧ next = some '/' then .two .between else .one .block := by
  unfold Skipping.move
  split
  case h_7 => rfl
  case h_8 hopen => rw [if_neg fun hend => hopen hend.1 hend.2]
  all_goals contradiction

private theorem move_blank {c : Char} (hc : isBlank c = true) (next : Option Char) :
    Skipping.between.move c next = .one .between := by
  have hdash : c ≠ '-' := by rintro rfl; revert hc; decide
  have hslash : c ≠ '/' := by rintro rfl; revert hc; decide
  simp [Skipping.move_between, hc, hdash, hslash]

theorem skip_one {skipping next : Skipping} {c : Char} {rest : List Char}
    (h : skipping.move c rest.head? = .one next) :
    skip skipping (c :: rest) = skip next rest := by simp [skip, h]

theorem skip_two {skipping next : Skipping} {c d : Char} {rest : List Char}
    (h : skipping.move c (some d) = .two next) :
    skip skipping (c :: d :: rest) = skip next rest := by simp [skip, h]

theorem skip_stop {skipping : Skipping} {c : Char} {rest : List Char}
    (h : skipping.move c rest.head? = .stop) :
    skip skipping (c :: rest) = c :: rest := by simp [skip, h]

theorem skip_blank {c : Char} (hc : isBlank c = true) (rest : List Char) :
    skip .between (c :: rest) = skip .between rest := skip_one (move_blank hc _)

theorem skip_paren (rest : List Char) : skip .between ('(' :: rest) = skip .between rest :=
  skip_one rfl

theorem skip_dashes (rest : List Char) : skip .between ('-' :: '-' :: rest) = skip .line rest :=
  skip_two rfl

theorem skip_slash_star (rest : List Char) :
    skip .between ('/' :: '*' :: rest) = skip .block rest := skip_two rfl

theorem skip_line_append {body : List Char} (hbody : '\n' ∉ body) (rest : List Char) :
    skip .line (body ++ '\n' :: rest) = skip .between rest := by
  induction body with
  | nil => simp [skip, Skipping.move_line]
  | cons c body ih =>
    simp only [List.mem_cons, not_or] at hbody
    simp [skip, Skipping.move_line, Ne.symm hbody.1, ih hbody.2]

theorem skip_line_eq_nil {cs : List Char} (h : '\n' ∉ cs) : skip .line cs = [] := by
  induction cs with
  | nil => rw [skip]
  | cons c cs ih =>
    simp only [List.mem_cons, not_or] at h
    simp [skip, Skipping.move_line, Ne.symm h.1, ih h.2]

/-- A text in which no block comment ends goes on so after its first character, and no block
comment ends at that character. -/
private theorem not_infix_cons {c : Char} {cs : List Char} (h : ¬ ['*', '/'] <:+: c :: cs) :
    ¬ (c = '*' ∧ cs.head? = some '/') ∧ ¬ ['*', '/'] <:+: cs := by
  refine ⟨?_, fun htail => h (List.infix_cons htail)⟩
  rintro ⟨rfl, hslash⟩
  obtain ⟨more, rfl⟩ := List.head?_eq_some_iff.mp hslash
  exact h ⟨[], more, rfl⟩

theorem skip_block_append {body : List Char} (hbody : ¬ ['*', '/'] <:+: body) (rest : List Char) :
    skip .block (body ++ '*' :: '/' :: rest) = skip .between rest := by
  induction body with
  | nil => simp [skip, Skipping.move_block]
  | cons c body ih =>
    obtain ⟨hfirst, htail⟩ := not_infix_cons hbody
    have hnext : ¬ (c = '*' ∧ (body ++ '*' :: '/' :: rest).head? = some '/') := by
      cases body with
      | nil => simp
      | cons d body => exact hfirst
    rw [List.cons_append, skip_one (by rw [Skipping.move_block, if_neg hnext]), ih htail]

theorem skip_block_eq_nil {cs : List Char} (h : ¬ ['*', '/'] <:+: cs) : skip .block cs = [] := by
  induction cs with
  | nil => rw [skip]
  | cons c cs ih =>
    obtain ⟨hfirst, htail⟩ := not_infix_cons h
    simp [skip, Skipping.move_block, hfirst, ih htail]

theorem Padding.skip_append {front : List Char} (h : Padding front) (rest : List Char) :
    skip .between (front ++ rest) = skip .between rest := by
  induction h with
  | nil => rfl
  | blank hc _ ih => rw [List.cons_append, skip_blank hc, ih]
  | paren _ ih => rw [List.cons_append, skip_paren, ih]
  | line hbody _ ih => simp [skip_dashes, skip_line_append hbody, ih]
  | block hbody _ ih => simp [skip_slash_star, skip_block_append hbody, ih]

theorem Bare.not_blank {c : Char} {rest : List Char} (h : Bare (c :: rest)) :
    isBlank c = false := by
  by_contra hc
  have := h [c] (.blank (by simpa using hc) .nil) ⟨rest, rfl⟩
  simp at this

theorem Bare.ne_paren {c : Char} {rest : List Char} (h : Bare (c :: rest)) : c ≠ '(' := by
  rintro rfl
  have := h ['('] (.paren .nil) ⟨rest, rfl⟩
  simp at this

theorem Bare.lineFeed_notMem {rest : List Char} (h : Bare ('-' :: '-' :: rest)) :
    '\n' ∉ rest := by
  intro hmem
  obtain ⟨body, more, rfl, hbody⟩ := List.eq_append_cons_of_mem hmem
  have := h _ (.line hbody .nil) ⟨more, by simp⟩
  simp at this

/-- The first end of a block comment in a text. -/
private theorem exists_block_end {cs : List Char} (h : ['*', '/'] <:+: cs) :
    ∃ body more, cs = body ++ '*' :: '/' :: more ∧ ¬ ['*', '/'] <:+: body := by
  induction cs with
  | nil => simp at h
  | cons c cs ih =>
    by_cases hfront : ['*', '/'] <+: c :: cs
    · obtain ⟨more, hmore⟩ := hfront
      exact ⟨[], more, by simpa using hmore.symm, by simp⟩
    · obtain ⟨body, more, rfl, hbody⟩ := ih ((List.infix_cons_iff.mp h).resolve_left hfront)
      refine ⟨c :: body, more, rfl, ?_⟩
      intro hinfix
      rcases List.infix_cons_iff.mp hinfix with hprefix | htail
      · obtain ⟨tail, htail⟩ := hprefix
        refine hfront ⟨tail ++ '*' :: '/' :: more, ?_⟩
        rw [← List.append_assoc, htail, List.cons_append]
      · exact hbody htail

theorem Bare.not_block_end {rest : List Char} (h : Bare ('/' :: '*' :: rest)) :
    ¬ ['*', '/'] <:+: rest := by
  intro hinfix
  obtain ⟨body, more, rfl, hbody⟩ := exists_block_end hinfix
  have := h _ (.block hbody .nil) ⟨more, by simp⟩
  simp at this

/-- At a bare text the search for a keyword stops, or it is lost in an unterminated comment. In
both cases the word at the front of what is left is the word at the front of the text. -/
theorem Bare.takeWhile_skip {cs : List Char} (h : Bare cs) :
    (skip .between cs).takeWhile isWord = cs.takeWhile isWord := by
  cases cs with
  | nil => rw [skip]
  | cons c rest =>
    by_cases hline : c = '-' ∧ rest.head? = some '-'
    · obtain ⟨rfl, hdash⟩ := hline
      obtain ⟨body, rfl⟩ := List.head?_eq_some_iff.mp hdash
      rw [skip_dashes, skip_line_eq_nil h.lineFeed_notMem]
      rfl
    by_cases hblock : c = '/' ∧ rest.head? = some '*'
    · obtain ⟨rfl, hstar⟩ := hblock
      obtain ⟨body, rfl⟩ := List.head?_eq_some_iff.mp hstar
      rw [skip_slash_star, skip_block_eq_nil h.not_block_end]
      rfl
    have hstop := Skipping.move_between c rest.head?
    rw [skip_stop (by rw [hstop]; simp [h.not_blank, h.ne_paren, hline, hblock])]

theorem Opens.leadingWord {cs padding rest : List Char} (h : Opens cs padding rest) :
    leadingWord cs = rest.takeWhile isWord := by
  rw [Sql.leadingWord, h.append, h.padding.skip_append, h.bare.takeWhile_skip]

theorem padding_of_blank {cs : List Char} (h : Blank cs) : Padding cs := by
  induction cs with
  | nil => exact .nil
  | cons c cs ih => exact .blank (blank_cons.mp h).1 (ih (blank_cons.mp h).2)

private theorem move_blank_next {next : Option Char} (h : ∀ d ∈ next, isBlank d = true)
    (skipping : Skipping) (c : Char) : skipping.move c next = skipping.move c none := by
  have hdash : next ≠ some '-' := fun hd => absurd (h _ hd) (by decide)
  have hstar : next ≠ some '*' := fun hd => absurd (h _ hd) (by decide)
  have hslash : next ≠ some '/' := fun hd => absurd (h _ hd) (by decide)
  cases skipping with
  | between => simp [Skipping.move_between, hdash, hstar]
  | line => simp [Skipping.move_line]
  | block => simp [Skipping.move_block, hslash]

private theorem move_append_blank {back : List Char} (h : Blank back) (skipping : Skipping)
    (c : Char) (rest : List Char) :
    skipping.move c (rest ++ back).head? = skipping.move c rest.head? := by
  cases rest with
  | nil =>
    apply move_blank_next
    intro d hd
    exact h d (List.mem_of_mem_head? hd)
  | cons d rest => rfl

theorem skip_of_blank {cs : List Char} (h : Blank cs) (skipping : Skipping) :
    skip skipping cs = [] := by
  induction cs generalizing skipping with
  | nil => rw [skip]
  | cons c cs ih =>
    obtain ⟨hc, hcs⟩ := blank_cons.mp h
    have hstar : c ≠ '*' := by rintro rfl; revert hc; decide
    cases skipping with
    | between => rw [skip_blank hc, ih hcs]
    | line => rw [skip_one (Skipping.move_line c _), ih hcs]
    | block =>
      have hmove : Skipping.block.move c cs.head? = .one .block := by
        simp [Skipping.move_block, hstar]
      rw [skip_one hmove, ih hcs]

theorem Skipping.move_none_ne_two (skipping : Skipping) (c : Char) (next : Skipping) :
    skipping.move c none ≠ .two next := by
  cases skipping with
  | between =>
    simp only [Skipping.move_between, reduceCtorEq, and_false, if_false]
    split_ifs <;> nofun
  | line => simp [Skipping.move_line]
  | block => simp [Skipping.move_block]

private theorem takeWhile_skip_append_blank {back : List Char} (h : Blank back)
    (skipping : Skipping) (cs : List Char) :
    (skip skipping (cs ++ back)).takeWhile isWord = (skip skipping cs).takeWhile isWord := by
  induction skipping, cs using skip.induct with
  | case1 skipping => rw [List.nil_append, skip_of_blank h, skip]
  | case2 skipping c rest hmove =>
    rw [skip_stop hmove, List.cons_append, skip_stop (by rw [move_append_blank h, hmove]),
      ← List.cons_append, takeWhile_append_blank _ h]
  | case3 skipping c next rest hmove ih =>
    rw [skip_one hmove, List.cons_append, skip_one (by rw [move_append_blank h, hmove]), ih]
  | case4 skipping c next d rest hmove ih =>
    rw [skip_two hmove, List.cons_append, List.cons_append, skip_two hmove, ih]
  | case5 skipping c next hmove => exact absurd hmove (skipping.move_none_ne_two c next)

theorem leadingWord_trim (cs : List Char) : leadingWord (trim cs) = leadingWord cs := by
  obtain ⟨front, back, hcs, hfront, hback⟩ := exists_blank_trim_blank cs
  calc leadingWord (trim cs)
      = (skip .between (trim cs ++ back)).takeWhile isWord :=
        (takeWhile_skip_append_blank hback .between (trim cs)).symm
    _ = (skip .between (front ++ (trim cs ++ back))).takeWhile isWord := by
        rw [(padding_of_blank hfront).skip_append]
    _ = leadingWord cs := by rw [← hcs, leadingWord]

theorem occursIn_iff_infix {needle cs : List Char} :
    occursIn needle cs = true ↔ needle <:+: cs := by
  induction cs with
  | nil => simp [occursIn]
  | cons c cs ih =>
    rw [occursIn, Bool.or_eq_true, List.isPrefixOf_iff_prefix, ih, List.infix_cons_iff]

/-- No write word occurs in the text, in any case. -/
def ReadsOnly (cs : List Char) : Prop := ∀ word ∈ writeWords, ¬ word.toList <:+: lower cs

/-- The word may lead a stretch, which then has to be read-only if the word is `WITH`. -/
structure SafeLead (word stretch : List Char) : Prop where
  safe : String.ofList (lower word) ∈ safeWords
  readsOnly : String.ofList (lower word) = "with" → ReadsOnly (trim stretch)

/-- After its padding the stretch goes on with no word, or with a word that may lead it. -/
def Passes (stretch : List Char) : Prop :=
  ∃ padding rest, Opens stretch padding rest ∧
    (rest.takeWhile isWord = [] ∨ SafeLead (rest.takeWhile isWord) stretch)

theorem mentionsWrite_eq_false_iff {statement : String} :
    mentionsWrite statement = false ↔ ReadsOnly statement.toList := by
  simp only [mentionsWrite, ReadsOnly, List.any_eq_false, occursIn_iff_infix]

/-- A statement is no write exactly if it has no leading word or a safe one. -/
theorem isWrite_eq_false_iff {statement : String} :
    isWrite statement = false ↔
      leadingWord statement.toList = [] ∨
        (String.ofList (lower (leadingWord statement.toList)) ∈ safeWords ∧
          (String.ofList (lower (leadingWord statement.toList)) = "with" →
            ReadsOnly statement.toList)) := by
  rw [isWrite, leadingKeyword]
  cases hword : leadingWord statement.toList with
  | nil => simp
  | cons c word =>
    by_cases hwith : String.ofList (lower (c :: word)) = "with"
    · simp [hwith, mentionsWrite_eq_false_iff, safeWords]
    · simp [hwith]

theorem passes_iff {stretch : List Char} :
    Passes stretch ↔ leadingWord stretch = [] ∨ SafeLead (leadingWord stretch) stretch := by
  constructor
  · rintro ⟨padding, rest, hopens, h⟩
    rwa [hopens.leadingWord]
  · intro h
    obtain ⟨padding, rest, hopens⟩ := exists_opens stretch
    rw [hopens.leadingWord] at h
    exact ⟨padding, rest, hopens, h⟩

theorem isWrite_trim_eq_false_iff {stretch : List Char} :
    isWrite (String.ofList (trim stretch)) = false ↔ Passes stretch := by
  rw [isWrite_eq_false_iff, passes_iff, String.toList_ofList, leadingWord_trim]
  refine or_congr_right ⟨fun h => ⟨h.1, h.2⟩, fun h => ⟨h.safe, h.readsOnly⟩⟩

theorem passes_of_trim_eq_nil {stretch : List Char} (h : trim stretch = []) : Passes stretch := by
  rw [← isWrite_trim_eq_false_iff, h]
  decide

/-- No statement of a query is a write exactly if all stretches of the query pass. -/
theorem split_reads_iff {query : String} :
    (∀ statement ∈ split query, isWrite statement = false) ↔
      ∀ stretch ∈ pieces query.toList, Passes stretch := by
  constructor
  · intro h stretch hstretch
    by_cases hempty : trim stretch = []
    · exact passes_of_trim_eq_nil hempty
    · exact isWrite_trim_eq_false_iff.mp
        (h _ (mem_split_iff.mpr ⟨stretch, hstretch, hempty, rfl⟩))
  · intro h statement hstatement
    obtain ⟨stretch, hstretch, -, rfl⟩ := mem_split_iff.mp hstatement
    exact isWrite_trim_eq_false_iff.mpr (h stretch hstretch)

theorem Passes.lead_notMem_writeWords {stretch padding rest : List Char} (h : Passes stretch)
    (hopens : Opens stretch padding rest) :
    String.ofList (lower (rest.takeWhile isWord)) ∉ writeWords := by
  have hdisjoint : ∀ word ∈ safeWords, word ∉ writeWords := by decide
  rw [← hopens.leadingWord]
  rcases passes_iff.mp h with hnone | hlead
  · rw [hnone]
    decide
  · exact hdisjoint _ hlead.safe

theorem not_passes_set (rest : List Char) : ¬ Passes ("SET ".toList ++ rest) := by
  have hskip : skip .between ("SET ".toList ++ rest) = "SET ".toList ++ rest := rfl
  have hword : leadingWord ("SET ".toList ++ rest) = "SET".toList := by
    rw [leadingWord, hskip]
    rfl
  rw [passes_iff, hword]
  rintro (hnone | hlead)
  · exact absurd hnone (by decide)
  · exact absurd hlead.safe (by decide)

theorem exists_not_passes_set (rest : List Char) :
    ∃ stretch ∈ pieces ("SET ".toList ++ rest), ¬ Passes stretch := by
  have hplain : ∀ c ∈ "SET ".toList, ∀ rest, lexeme c rest = (⟨.plain, [c]⟩, rest) := by
    intro c hc rest
    have hletter : c ∈ ['S', 'E', 'T', ' '] := hc
    simp only [List.mem_cons, List.not_mem_nil, or_false] at hletter
    rcases hletter with rfl | rfl | rfl | rfl <;> rfl
  refine ⟨"SET ".toList ++ (cut .code rest).1, ?_, not_passes_set _⟩
  rw [← stretches_eq_pieces, stretches, cut_plain_append hplain]
  exact List.mem_cons_self

end QueryGate.Sql
