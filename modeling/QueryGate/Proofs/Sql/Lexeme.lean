import Mathlib.Data.List.Basic
import QueryGate.Proofs.Text.Trim
import QueryGate.Sql.Statement

/-!
# Lexemes

A query is a sequence of lexemes: comments, quoted texts, separators, and single characters for
everything else. The decomposition is defined here on whole lexemes, without the scanner and its
regions. The scanner's stretches are the lexemes between separators, and its statements are those
stretches, trimmed, without the empty ones. Comments and quoted texts need not be terminated.
-/

namespace QueryGate.Sql

open QueryGate.Text

/-- The kinds of lexemes. -/
inductive LexemeKind where
  | lineComment
  | blockComment
  | quoted
  | separator
  | plain
  deriving DecidableEq, Repr

/-- A lexeme: its kind and its characters. -/
structure Lexeme where
  kind : LexemeKind
  text : List Char
  deriving DecidableEq, Repr

/-- The characters up to and including the first line feed, or all of them, and the rest. -/
def throughLineFeed : List Char → List Char × List Char
  | [] => ([], [])
  | c :: rest =>
      if c = '\n' then ([c], rest)
      else (c :: (throughLineFeed rest).1, (throughLineFeed rest).2)

/-- The characters up to and including the first `*/`, or all of them, and the rest. -/
def throughBlockEnd : List Char → List Char × List Char
  | [] => ([], [])
  | '*' :: '/' :: rest => (['*', '/'], rest)
  | c :: rest => (c :: (throughBlockEnd rest).1, (throughBlockEnd rest).2)

/-- The characters up to and including the first delimiter that is not doubled, or all of them,
and the rest. Doubled delimiters are taken from the left, as many as there are. -/
def throughQuote (delimiter : Char) : List Char → List Char × List Char
  | [] => ([], [])
  | [c] => ([c], [])
  | c :: d :: rest =>
      if c = delimiter then
        if d = delimiter then
          (c :: d :: (throughQuote delimiter rest).1, (throughQuote delimiter rest).2)
        else ([c], d :: rest)
      else (c :: (throughQuote delimiter (d :: rest)).1, (throughQuote delimiter (d :: rest)).2)

/-- The lexeme at the front of a text that starts with a character, and the text after it. -/
def lexeme : Char → List Char → Lexeme × List Char
  | '-', '-' :: rest =>
      (⟨.lineComment, '-' :: '-' :: (throughLineFeed rest).1⟩, (throughLineFeed rest).2)
  | '/', '*' :: rest =>
      (⟨.blockComment, '/' :: '*' :: (throughBlockEnd rest).1⟩, (throughBlockEnd rest).2)
  | '\x27', rest =>
      (⟨.quoted, '\x27' :: (throughQuote '\x27' rest).1⟩, (throughQuote '\x27' rest).2)
  | '"', rest => (⟨.quoted, '"' :: (throughQuote '"' rest).1⟩, (throughQuote '"' rest).2)
  | ';', rest => (⟨.separator, [';']⟩, rest)
  | c, rest => (⟨.plain, [c]⟩, rest)

theorem throughLineFeed_append (cs : List Char) :
    (throughLineFeed cs).1 ++ (throughLineFeed cs).2 = cs := by
  fun_induction throughLineFeed cs with
  | case1 => rfl
  | case2 => rfl
  | case3 c rest hc ih => rw [List.cons_append, ih]

theorem throughBlockEnd_append (cs : List Char) :
    (throughBlockEnd cs).1 ++ (throughBlockEnd cs).2 = cs := by
  fun_induction throughBlockEnd cs with
  | case1 => rfl
  | case2 => rfl
  | case3 c rest hc ih => rw [List.cons_append, ih]

theorem throughQuote_append (delimiter : Char) (cs : List Char) :
    (throughQuote delimiter cs).1 ++ (throughQuote delimiter cs).2 = cs := by
  fun_induction throughQuote delimiter cs with
  | case1 => rfl
  | case2 => rfl
  | case3 rest ih => rw [List.cons_append, List.cons_append, ih]
  | case4 => rfl
  | case5 c d rest hc ih => rw [List.cons_append, ih]

theorem lexeme_append (c : Char) (rest : List Char) :
    (lexeme c rest).1.text ++ (lexeme c rest).2 = c :: rest := by
  fun_cases lexeme c rest <;>
    simp [throughLineFeed_append, throughBlockEnd_append, throughQuote_append]

theorem lexeme_text_ne_nil (c : Char) (rest : List Char) : (lexeme c rest).1.text ≠ [] := by
  fun_cases lexeme c rest <;> simp

theorem length_lexeme_rest_le (c : Char) (rest : List Char) :
    (lexeme c rest).2.length ≤ rest.length := by
  have happend := congrArg List.length (lexeme_append c rest)
  have hpos := List.length_pos_iff.mpr (lexeme_text_ne_nil c rest)
  simp only [List.length_append, List.length_cons] at happend
  omega

/-- The lexemes of a text, from left to right. -/
def lexemes : List Char → List Lexeme
  | [] => []
  | c :: rest => (lexeme c rest).1 :: lexemes (lexeme c rest).2
termination_by cs => cs.length
decreasing_by
  have := length_lexeme_rest_le c rest
  simp only [List.length_cons]
  omega

/-- The lexeme separates statements. -/
def Lexeme.isSeparator (lexeme : Lexeme) : Bool := lexeme.kind = .separator

/-- The characters of a sequence of lexemes. -/
def written (lexemes : List Lexeme) : List Char := lexemes.flatMap Lexeme.text

/-- The characters between the separators of a text and its two ends, in order. -/
def pieces (cs : List Char) : List (List Char) :=
  ((lexemes cs).splitOnP Lexeme.isSeparator).map written

@[simp] theorem lexemes_nil : lexemes [] = [] := by rw [lexemes]

theorem lexemes_cons (c : Char) (rest : List Char) :
    lexemes (c :: rest) = (lexeme c rest).1 :: lexemes (lexeme c rest).2 := by rw [lexemes]

theorem written_lexemes (cs : List Char) : written (lexemes cs) = cs := by
  fun_induction lexemes cs with
  | case1 => rfl
  | case2 c rest ih =>
    rw [written] at ih ⊢
    rw [List.flatMap_cons, ih, lexeme_append]

@[simp] theorem prepend_append (front more : List Char) (s : List Char × List (List Char)) :
    prepend (front ++ more) s = prepend front (prepend more s) := by
  simp [prepend]

/-- The scanner stays in plain SQL at a character that is a lexeme by itself. -/
theorem move_of_lexeme_plain {c : Char} {rest : List Char}
    (h : (lexeme c rest).1.kind = .plain) : Region.code.move c rest.head? = .one .code := by
  revert h
  fun_cases lexeme c rest with
  | case6 c rest hline hblock hsingle hdouble hseparator =>
    intro _
    have hpair {d e : Char} (h : ∀ more, c = d → rest = e :: more → False) :
        ¬ (c = d ∧ rest.head? = some e) := by
      rintro ⟨hc, hnext⟩
      obtain ⟨more, hrest⟩ := List.head?_eq_some_iff.mp hnext
      exact h more hc hrest
    rw [Region.move_code, if_neg (hpair hblock), if_neg (hpair hline), if_neg hsingle,
      if_neg hdouble, if_neg hseparator]
  | _ => nofun

theorem cut_line (cs : List Char) :
    cut .line cs = prepend (throughLineFeed cs).1 (cut .code (throughLineFeed cs).2) := by
  fun_induction throughLineFeed cs with
  | case1 => simp [cut, prepend]
  | case2 rest => simp [cut, Region.move_line]
  | case3 c rest hc ih => simp [cut, Region.move_line, hc, ih, prepend]

theorem cut_block (cs : List Char) :
    cut .block cs = prepend (throughBlockEnd cs).1 (cut .code (throughBlockEnd cs).2) := by
  fun_induction throughBlockEnd cs with
  | case1 => simp [cut, prepend]
  | case2 rest => simp [cut, Region.move_block]
  | case3 c rest hc ih =>
    have hopen : ¬ (c = '*' ∧ rest.head? = some '/') := by
      rintro ⟨hstar, hslash⟩
      obtain ⟨more, rfl⟩ := List.head?_eq_some_iff.mp hslash
      exact hc more hstar rfl
    simp [cut, Region.move_block, hopen, ih, prepend]

/-- The region inside a text that is quoted with the delimiter. -/
private def quoteRegion (delimiter : Char) : Region :=
  if delimiter = '"' then .double else .single

private theorem move_quote {delimiter c : Char} {next : Option Char}
    (hd : delimiter = '\x27' ∨ delimiter = '"') :
    (quoteRegion delimiter).move c next =
      if c = delimiter then
        if next = some delimiter then .two (quoteRegion delimiter) else .one .code
      else .one (quoteRegion delimiter) := by
  rcases hd with rfl | rfl
  · exact Region.move_single c next
  · exact Region.move_double c next

theorem cut_quote {delimiter : Char} (hd : delimiter = '\x27' ∨ delimiter = '"') (cs : List Char) :
    cut (quoteRegion delimiter) cs =
      prepend (throughQuote delimiter cs).1 (cut .code (throughQuote delimiter cs).2) := by
  fun_induction throughQuote delimiter cs with
  | case1 => simp [cut, prepend]
  | case2 c =>
    by_cases hc : c = delimiter <;> simp [cut, move_quote hd, hc, prepend]
  | case3 rest ih => simp [cut, move_quote hd, ih, prepend]
  | case4 d rest hne => simp [cut, move_quote hd, hne, prepend]
  | case5 c d rest hne ih => simp [cut, move_quote hd, hne, ih, prepend]

theorem cut_single (cs : List Char) :
    cut .single cs =
      prepend (throughQuote '\x27' cs).1 (cut .code (throughQuote '\x27' cs).2) :=
  cut_quote (.inl rfl) cs

theorem cut_double (cs : List Char) :
    cut .double cs = prepend (throughQuote '"' cs).1 (cut .code (throughQuote '"' cs).2) :=
  cut_quote (.inr rfl) cs

/-- In plain SQL the scanner takes one whole lexeme: a separator ends the stretch, and every
other lexeme belongs to it. -/
theorem cut_code_cons (c : Char) (rest : List Char) :
    cut .code (c :: rest) =
      if (lexeme c rest).1.isSeparator then ([], stretches (lexeme c rest).2)
      else prepend (lexeme c rest).1.text (cut .code (lexeme c rest).2) := by
  fun_cases lexeme c rest with
  | case1 rest => simp [Lexeme.isSeparator, cut, Region.move_code, cut_line, prepend]
  | case2 rest => simp [Lexeme.isSeparator, cut, Region.move_code, cut_block, prepend]
  | case3 => simp [Lexeme.isSeparator, cut, Region.move_code, cut_single, prepend]
  | case4 => simp [Lexeme.isSeparator, cut, Region.move_code, cut_double, prepend]
  | case5 => simp [Lexeme.isSeparator, cut, Region.move_code, stretches]
  | case6 c rest hline hblock hsingle hdouble hseparator =>
    -- No other front of a text makes the scanner leave plain SQL or end the stretch.
    have hplain : (lexeme c rest).1.kind = .plain := by
      rw [lexeme.eq_6 _ _ hsingle hdouble hseparator hline hblock]
    simp [Lexeme.isSeparator, cut, move_of_lexeme_plain hplain]

/-- The scanner's stretches are the texts between separators. -/
theorem stretches_eq_pieces (cs : List Char) : stretches cs = pieces cs := by
  fun_induction lexemes cs with
  | case1 => simp [stretches, cut, pieces, written]
  | case2 c rest ih =>
    rw [pieces, lexemes_cons, List.splitOnP_cons_eq_if_modifyHead, stretches, cut_code_cons]
    by_cases hsep : (lexeme c rest).1.isSeparator = true
    · simp only [hsep, if_true, List.map_cons]
      rw [ih, pieces]
      simp [written]
    · simp only [hsep]
      rw [stretches, pieces] at ih
      obtain ⟨group, groups, hgroups⟩ :=
        List.exists_cons_of_ne_nil (List.splitOnP_ne_nil Lexeme.isSeparator
          (lexemes (lexeme c rest).2))
      simp only [hgroups, List.map_cons, List.cons.injEq] at ih
      simp [hgroups, prepend, ih, written]

theorem cut_plain_append {word : List Char}
    (hword : ∀ c ∈ word, ∀ rest, lexeme c rest = (⟨.plain, [c]⟩, rest)) (rest : List Char) :
    cut .code (word ++ rest) = prepend word (cut .code rest) := by
  induction word with
  | nil => simp [prepend]
  | cons c word ih =>
    rw [List.forall_mem_cons] at hword
    rw [List.cons_append, cut_code_cons, hword.1, ih hword.2, ← List.singleton_append,
      prepend_append]
    rfl

theorem split_eq_trimmed_pieces (query : String) :
    split query =
      (((pieces query.toList).map trim).filter (!·.isEmpty)).map String.ofList := by
  rw [split, splitChars, stretches_eq_pieces]

theorem mem_split_iff {query statement : String} :
    statement ∈ split query ↔
      ∃ piece ∈ pieces query.toList, trim piece ≠ [] ∧ statement = String.ofList (trim piece) := by
  simp only [split_eq_trimmed_pieces, List.mem_map, List.mem_filter]
  constructor
  · rintro ⟨_, ⟨⟨piece, hpiece, rfl⟩, hne⟩, rfl⟩
    exact ⟨piece, hpiece, by simpa using hne, rfl⟩
  · rintro ⟨piece, hpiece, hne, rfl⟩
    exact ⟨_, ⟨⟨piece, hpiece, rfl⟩, by simpa using hne⟩, rfl⟩

/-- The pieces hold the characters of all lexemes but the separators. -/
theorem flatten_pieces (cs : List Char) :
    (pieces cs).flatten = written ((lexemes cs).filter fun l => !l.isSeparator) := by
  rw [pieces]
  induction lexemes cs with
  | nil => simp [written]
  | cons l ls ih =>
    rw [List.splitOnP_cons_eq_if_modifyHead]
    by_cases hsep : l.isSeparator = true
    · simpa [hsep, written] using ih
    · obtain ⟨group, groups, hgroups⟩ :=
        List.exists_cons_of_ne_nil (List.splitOnP_ne_nil Lexeme.isSeparator ls)
      rw [hgroups] at ih ⊢
      simp only [written] at ih
      simp [hsep, written, ← ih]

theorem inked_split (query : String) :
    (split query).flatMap (fun statement => inked statement.toList) =
      inked (pieces query.toList).flatten := by
  rw [split_eq_trimmed_pieces]
  induction pieces query.toList with
  | nil => rfl
  | cons piece rest ih =>
    rw [List.flatten_cons, inked_append, ← ih, ← inked_trim piece]
    by_cases hne : trim piece = []
    · simp [hne, inked]
    · simp [hne]

/-- A query is the sequence of its lexemes, and its statements are the texts between separators,
trimmed, without the empty ones, in order. Hence every character that is not blank and belongs to
no separator stands in exactly one statement, in its place. -/
theorem split_reads_lexemes (query : String) :
    written (lexemes query.toList) = query.toList ∧
      split query =
        ((((lexemes query.toList).splitOnP Lexeme.isSeparator).map fun group =>
          trim (written group)).filter (!·.isEmpty)).map String.ofList ∧
      (split query).flatMap (fun statement => inked statement.toList) =
        inked (written ((lexemes query.toList).filter fun l => !l.isSeparator)) := by
  refine ⟨written_lexemes _, ?_, ?_⟩
  · rw [split_eq_trimmed_pieces, pieces, List.map_map]
    rfl
  · rw [inked_split, flatten_pieces]

end QueryGate.Sql
