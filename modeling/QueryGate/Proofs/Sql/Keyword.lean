import QueryGate.Proofs.Sql.Standalone

/-!
# The leading keyword and the scanner

The leading keyword of a statement is looked for by a search of its own, which passes over padding
and knows nothing of the scanner. Both agree nevertheless: a text is opened by exactly one padding,
and when the scanner has read that padding it stands in plain SQL and has read nothing of what
follows. So every character of the keyword is read in plain SQL, and never inside a comment or a
quoted text.
-/

namespace QueryGate.Sql

open QueryGate.Text

/-- The scan of a text comes, step by step, from one region to another, and the last text is what it
has not read by then. -/
inductive Reads : Region → List Char → Region → List Char → Prop where
  | refl (region : Region) (cs : List Char) : Reads region cs region cs
  | one {region next last : Region} {c : Char} {rest unread : List Char}
      (hmove : region.move c rest.head? = .one next) (tail : Reads next rest last unread) :
      Reads region (c :: rest) last unread
  | two {region next last : Region} {c d : Char} {rest unread : List Char}
      (hmove : region.move c (some d) = .two next) (tail : Reads next rest last unread) :
      Reads region (c :: d :: rest) last unread
  | separate {region last : Region} {c : Char} {rest unread : List Char}
      (hmove : region.move c rest.head? = .separate) (tail : Reads .code rest last unread) :
      Reads region (c :: rest) last unread

/-- What is left is read in the text as it is by itself, from the region that was reached. -/
theorem Reads.located_suffix {region last : Region} {cs unread : List Char}
    (h : Reads region cs last unread) : located last unread <:+ located region cs := by
  induction h with
  | refl region cs => exact List.suffix_refl _
  | one hmove _ ih =>
    rw [located_one hmove]
    exact ih.trans (List.suffix_cons _ _)
  | two hmove _ ih =>
    rw [located_two hmove]
    exact ih.trans ((List.suffix_cons _ _).trans (List.suffix_cons _ _))
  | separate hmove _ ih =>
    rw [located_separate hmove]
    exact ih.trans (List.suffix_cons _ _)

theorem reads_line {body rest : List Char} {last : Region} {unread : List Char}
    (hbody : '\n' ∉ body) (h : Reads .code rest last unread) :
    Reads .line (body ++ '\n' :: rest) last unread := by
  induction body with
  | nil => exact .one rfl h
  | cons c body ih =>
    simp only [List.mem_cons, not_or] at hbody
    have hmove : Region.line.move c (body ++ '\n' :: rest).head? = .one .line := by
      rw [Region.move_line, if_neg (Ne.symm hbody.1)]
    exact .one hmove (ih hbody.2)

theorem reads_block {body rest : List Char} {last : Region} {unread : List Char}
    (hbody : ¬ ['*', '/'] <:+: body) (h : Reads .code rest last unread) :
    Reads .block (body ++ '*' :: '/' :: rest) last unread := by
  induction body with
  | nil => exact .two rfl h
  | cons c body ih =>
    have htail : ¬ ['*', '/'] <:+: body := fun hinfix => hbody (List.infix_cons hinfix)
    have hopen : ¬ (c = '*' ∧ (body ++ '*' :: '/' :: rest).head? = some '/') := by
      rintro ⟨rfl, hslash⟩
      cases body with
      | nil => simp at hslash
      | cons d body =>
        obtain rfl : d = '/' := by simpa using hslash
        exact hbody ⟨[], body, rfl⟩
    have hmove : Region.block.move c (body ++ '*' :: '/' :: rest).head? = .one .block := by
      rw [Region.move_block, if_neg hopen]
    exact .one hmove (ih htail)

/-- The scan of padding leads back to plain SQL, and reads nothing behind it. -/
theorem Padding.reads {padding : List Char} (h : Padding padding) (rest : List Char) :
    Reads .code (padding ++ rest) .code rest := by
  induction h with
  | nil => exact .refl .code rest
  | blank hc _ ih => exact .one ((isPlain_of_isBlank hc).move _) ih
  | paren _ ih => exact .one rfl ih
  | @line body tail hbody _ ih =>
    simp only [List.cons_append, List.append_assoc]
    exact .two rfl (reads_line hbody ih)
  | @block body tail hbody _ ih =>
    simp only [List.cons_append, List.append_assoc]
    exact .two rfl (reads_block hbody ih)

theorem padding_cons_iff {c : Char} {rest : List Char} :
    Padding (c :: rest) ↔
      (isBlank c = true ∨ c = '(') ∧ Padding rest ∨
      (c = '-' ∧ ∃ body more, rest = '-' :: (body ++ '\n' :: more) ∧ '\n' ∉ body ∧ Padding more) ∨
      (c = '/' ∧ ∃ body more, rest = '*' :: (body ++ '*' :: '/' :: more) ∧
        ¬ ['*', '/'] <:+: body ∧ Padding more) := by
  constructor
  · intro h
    cases h with
    | blank hc tail => exact .inl ⟨.inl hc, tail⟩
    | paren tail => exact .inl ⟨.inr rfl, tail⟩
    | line hbody tail => exact .inr (.inl ⟨rfl, _, _, rfl, hbody, tail⟩)
    | block hbody tail => exact .inr (.inr ⟨rfl, _, _, rfl, hbody, tail⟩)
  · rintro (⟨hc | rfl, tail⟩ | ⟨rfl, body, more, rfl, hbody, tail⟩ |
      ⟨rfl, body, more, rfl, hbody, tail⟩)
    · exact .blank hc tail
    · exact .paren tail
    · exact .line hbody tail
    · exact .block hbody tail

/-- Padding behind which padding goes on is continued by padding. -/
theorem Padding.of_append {front more : List Char} (h : Padding front)
    (happend : Padding (front ++ more)) : Padding more := by
  induction h with
  | nil => exact happend
  | @blank c tail hc _ ih =>
    rw [List.cons_append, padding_cons_iff] at happend
    rcases happend with ⟨-, htail⟩ | ⟨rfl, -⟩ | ⟨rfl, -⟩
    · exact ih htail
    · exact absurd hc (by decide)
    · exact absurd hc (by decide)
  | @paren tail _ ih =>
    rw [List.cons_append, padding_cons_iff] at happend
    rcases happend with ⟨-, htail⟩ | ⟨hc, -⟩ | ⟨hc, -⟩
    · exact ih htail
    · exact absurd hc (by decide)
    · exact absurd hc (by decide)
  | @line body tail hbody _ ih =>
    rw [List.cons_append, padding_cons_iff] at happend
    rcases happend with ⟨hc, -⟩ | ⟨-, body', more', heq, hbody', htail⟩ | ⟨hc, -⟩
    · exact absurd hc (by decide)
    · have hcut := throughLineFeed_body hbody' more'
      rw [List.cons_append, List.append_assoc, List.cons_append] at heq
      rw [← (List.cons.inj heq).2, throughLineFeed_body hbody, Prod.mk.injEq] at hcut
      exact ih (hcut.2 ▸ htail)
    · exact absurd hc (by decide)
  | @block body tail hbody _ ih =>
    rw [List.cons_append, padding_cons_iff] at happend
    rcases happend with ⟨hc, -⟩ | ⟨hc, -⟩ | ⟨-, body', more', heq, hbody', htail⟩
    · exact absurd hc (by decide)
    · exact absurd hc (by decide)
    · have hcut := throughBlockEnd_body hbody' more'
      rw [List.cons_append, List.append_assoc, List.cons_append, List.cons_append] at heq
      rw [← (List.cons.inj heq).2, throughBlockEnd_body hbody, Prod.mk.injEq] at hcut
      exact ih (hcut.2 ▸ htail)

theorem Opens.eq_nil_of_append {cs padding middle rest : List Char}
    (h : Opens cs padding (middle ++ rest)) (hlonger : Padding (padding ++ middle)) :
    middle = [] :=
  h.bare middle (h.padding.of_append hlonger) (List.prefix_append middle rest)

theorem existsUnique_opens (cs : List Char) :
    ∃! parts : List Char × List Char, Opens cs parts.1 parts.2 := by
  obtain ⟨padding, rest, hopens⟩ := exists_opens cs
  refine ⟨(padding, rest), hopens, ?_⟩
  rintro ⟨padding', rest'⟩ hopens'
  have happend : padding' ++ rest' = padding ++ rest := hopens'.append.symm.trans hopens.append
  rcases List.append_eq_append_iff.mp happend with ⟨middle, rfl, rfl⟩ | ⟨middle, rfl, rfl⟩
  · simp [hopens'.eq_nil_of_append hopens.padding]
  · simp [hopens.eq_nil_of_append hopens'.padding]

theorem isPlain_of_isWord {c : Char} (h : isWord c = true) : IsPlain c := by
  have hothers : ['-', '/', '\x27', '"', ';'].all (fun d => !isWord d) = true := by decide
  intro hmem
  have hother : (!isWord c) = true := List.all_eq_true.mp hothers c hmem
  rw [h] at hother
  cases hother

theorem located_word_append {word : List Char} (hword : ∀ c ∈ word, isWord c = true)
    (rest : List Char) :
    located .code (word ++ rest) = (word.map fun c => (c, .code)) ++ located .code rest := by
  induction word with
  | nil => rfl
  | cons c word ih =>
    rw [List.forall_mem_cons] at hword
    rw [List.cons_append, located_one ((isPlain_of_isWord hword.1).move _), ih hword.2]
    rfl

/-- No padding starts with a word character. -/
theorem bare_of_isWord {c : Char} (hc : isWord c = true) (rest : List Char) : Bare (c :: rest) := by
  rintro (_ | ⟨d, front⟩) hfront hstart
  · rfl
  · obtain ⟨rfl, -⟩ := List.cons_prefix_cons.mp hstart
    have hplain := isPlain_of_isWord hc
    rcases padding_cons_iff.mp hfront with ⟨hblank | rfl, -⟩ | ⟨rfl, -⟩ | ⟨rfl, -⟩
    · rw [isWord_of_isBlank hblank] at hc
      cases hc
    · exact absurd hc (by decide)
    · exact absurd hplain (by decide)
    · exact absurd hplain (by decide)

/-- The text starts with the word, and the word does not go on behind it. -/
structure Leads (word cs after : List Char) : Prop where
  append : cs = word ++ after
  ne_nil : word ≠ []
  isWord : ∀ c ∈ word, Text.isWord c = true
  ended : ∀ c ∈ after.head?, Text.isWord c = false

theorem Leads.takeWhile {word cs after : List Char} (h : Leads word cs after) :
    cs.takeWhile Text.isWord = word := by
  have hafter : after.takeWhile Text.isWord = [] := by
    cases after with
    | nil => rfl
    | cons c after => simp [h.ended c rfl]
  rw [h.append, List.takeWhile_append_of_pos h.isWord, hafter, List.append_nil]

theorem leadingKeyword_of_leadingWord {statement : String} (h : leadingWord statement.toList ≠ []) :
    leadingKeyword statement = some (String.ofList (lower (leadingWord statement.toList))) := by
  rw [leadingKeyword]
  split
  · next hnil => exact absurd hnil h
  · rfl

/-- What is promised of a statement that is opened by a padding. -/
structure KeywordBehind (statement : String) (padding rest : List Char) : Prop where
  /-- The scan is in plain SQL when it has read the padding and nothing more. -/
  reached : Reads .code statement.toList .code rest
  /-- It goes on with the rest as with a text by itself. -/
  stretches : cut .code statement.toList = prepend padding (cut .code rest)
  none : (∀ c ∈ rest.head?, isWord c = false) → leadingKeyword statement = none
  word : ∀ word after, Leads word rest after →
    leadingKeyword statement = some (String.ofList (lower word)) ∧
      ((located .code statement.toList).drop padding.length).take word.length =
        word.map fun c => (c, .code)

theorem Opens.keywordBehind {statement : String} {padding rest : List Char}
    (h : Opens statement.toList padding rest) : KeywordBehind statement padding rest := by
  have hreads : Reads .code statement.toList .code rest := by
    rw [h.append]
    exact h.padding.reads rest
  refine ⟨hreads, ?_, fun hnone => ?_, fun word after hleads => ⟨?_, ?_⟩⟩
  · rw [h.append, h.padding.cut_append]
  · have hword : Sql.leadingWord statement.toList = [] := by
      rw [h.leadingWord]
      cases rest with
      | nil => rfl
      | cons c rest => simp [hnone c rfl]
    rw [leadingKeyword, hword]
  · have hword : Sql.leadingWord statement.toList = word := by rw [h.leadingWord, hleads.takeWhile]
    rw [leadingKeyword_of_leadingWord (hword ▸ hleads.ne_nil), hword]
  · obtain ⟨front, hfront⟩ := hreads.located_suffix
    have hlength : front.length = padding.length := by
      have hchars := congrArg (List.map Prod.fst) hfront
      rw [List.map_append, map_fst_located, map_fst_located, h.append] at hchars
      have hpadding := List.append_cancel_right hchars
      rw [← hpadding, List.length_map]
    rw [← hfront, ← hlength, List.drop_left, hleads.append, located_word_append hleads.isWord]
    exact List.take_left' (List.length_map _)

/-- A statement is opened by one padding only. Its keyword is the whole word right behind that
padding in lower case, and there is none if no word stands there: at the end of the text, at a
comment that is not closed, or at any other character. The scanner stands in plain SQL there with
nothing of the rest read yet, and it reads the whole keyword in plain SQL. -/
theorem leadingKeyword_located (statement : String) :
    (∃! parts : List Char × List Char, Opens statement.toList parts.1 parts.2) ∧
      ∀ padding rest, Opens statement.toList padding rest →
        KeywordBehind statement padding rest :=
  ⟨existsUnique_opens statement.toList, fun _ _ h => h.keywordBehind⟩

/-- The comment is not closed by the slash right behind its opening characters, and the separator
and the quote in it belong to it. -/
theorem leadingKeyword_located_select :
    Opens "/*/;\x27 */(SELECT 1".toList "/*/;\x27 */(".toList "SELECT 1".toList ∧
      leadingKeyword "/*/;\x27 */(SELECT 1" = some "select" := by
  have hpadding : Padding "/*/;\x27 */(".toList := by
    have hbody : ¬ ['*', '/'] <:+: ['/', ';', '\x27', ' '] := by
      rw [← occursIn_iff_infix]
      decide
    exact .block hbody (.paren .nil)
  have hopens : Opens "/*/;\x27 */(SELECT 1".toList "/*/;\x27 */(".toList "SELECT 1".toList :=
    ⟨by decide, hpadding, bare_of_isWord (by decide) _⟩
  have hleads : Leads "SELECT".toList "SELECT 1".toList " 1".toList := by
    refine ⟨by decide, by decide, ?_, ?_⟩
    · exact List.all_eq_true.mp (by decide)
    · rintro c ⟨⟩
      decide
  have hbehind := (leadingKeyword_located "/*/;\x27 */(SELECT 1").2 _ _ hopens
  exact ⟨hopens, (hbehind.word _ _ hleads).1.trans rfl⟩

end QueryGate.Sql
