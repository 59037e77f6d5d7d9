import QueryGate.Proofs.Sql.Concatenation
import QueryGate.Proofs.Sql.Padding
import QueryGate.Proofs.Text.LetterCase

/-!
# Statements behind padding

The statements of a query can be put together again: each on a line of its own, with a separator
in front of the next one, and any padding before it. Splitting the new query gives the same
statements in the same order, each behind its padding, although the padding may hold separators
and quotes in its comments. The leading keyword of a statement does not change; but the padding of
a `WITH` statement is searched for write words as well.
-/

namespace QueryGate.Sql

open QueryGate.Text

theorem throughLineFeed_body {body : List Char} (hbody : '\n' ∉ body) (rest : List Char) :
    throughLineFeed (body ++ '\n' :: rest) = (body ++ ['\n'], rest) := by
  induction body with
  | nil => rfl
  | cons c body ih =>
    simp only [List.mem_cons, not_or] at hbody
    rw [List.cons_append, throughLineFeed, if_neg (Ne.symm hbody.1), ih hbody.2]
    rfl

theorem throughBlockEnd_cons {c : Char} {rest : List Char}
    (h : ¬ (c = '*' ∧ rest.head? = some '/')) :
    throughBlockEnd (c :: rest) =
      (c :: (throughBlockEnd rest).1, (throughBlockEnd rest).2) := by
  rw [throughBlockEnd.eq_def]
  split
  · next hnil => cases hnil
  · next more hmore =>
    cases hmore
    exact absurd ⟨rfl, rfl⟩ h
  · next hmore =>
    cases hmore
    rfl

theorem throughBlockEnd_body {body : List Char} (hbody : ¬ ['*', '/'] <:+: body)
    (rest : List Char) :
    throughBlockEnd (body ++ '*' :: '/' :: rest) = (body ++ ['*', '/'], rest) := by
  induction body with
  | nil => rfl
  | cons c body ih =>
    have htail : ¬ ['*', '/'] <:+: body := fun hinfix => hbody (List.infix_cons hinfix)
    have hnext : ¬ (c = '*' ∧ (body ++ '*' :: '/' :: rest).head? = some '/') := by
      rintro ⟨rfl, hslash⟩
      cases body with
      | nil => simp at hslash
      | cons d body =>
        obtain rfl : d = '/' := by simpa using hslash
        exact hbody ⟨[], body, rfl⟩
    rw [List.cons_append, throughBlockEnd_cons hnext, ih htail]
    rfl

/-- Padding belongs to the stretch of what follows it, and the scan goes on in plain SQL. -/
theorem Padding.cut_append {padding : List Char} (h : Padding padding) (rest : List Char) :
    cut .code (padding ++ rest) = prepend padding (cut .code rest) := by
  induction h with
  | nil => rfl
  | @blank c tail hc _ ih =>
    have hplain : lexeme c (tail ++ rest) = (⟨.plain, [c]⟩, tail ++ rest) :=
      (isPlain_of_isBlank hc).lexeme _
    rw [List.cons_append, cut_code_cons, hplain]
    change prepend [c] (cut .code (tail ++ rest)) = _
    rw [ih, ← prepend_append, List.singleton_append]
  | @paren tail _ ih =>
    change prepend ['('] (cut .code (tail ++ rest)) = _
    rw [ih, ← prepend_append, List.singleton_append]
  | @line body tail hbody _ ih =>
    have hopen (more : List Char) :
        cut .code ('-' :: '-' :: more) = prepend ['-', '-'] (cut .line more) := cut_two rfl
    have happend : '-' :: '-' :: (body ++ '\n' :: tail) ++ rest =
        '-' :: '-' :: (body ++ '\n' :: (tail ++ rest)) := by simp
    rw [happend, hopen, cut_line, throughLineFeed_body hbody, ih, ← prepend_append,
      ← prepend_append]
    simp
  | @block body tail hbody _ ih =>
    have hopen (more : List Char) :
        cut .code ('/' :: '*' :: more) = prepend ['/', '*'] (cut .block more) := cut_two rfl
    have happend : '/' :: '*' :: (body ++ '*' :: '/' :: tail) ++ rest =
        '/' :: '*' :: (body ++ '*' :: '/' :: (tail ++ rest)) := by simp
    rw [happend, hopen, cut_block, throughBlockEnd_body hbody, ih, ← prepend_append,
      ← prepend_append]
    simp

/-- What texts that are the statements of some query have in common: they are trimmed and free of
separators, and a line feed behind any but the last one leads back to plain SQL. -/
structure AreStatements (statements : List (List Char)) : Prop where
  trimmed : ∀ cs ∈ statements, Trimmed cs
  undivided : ∀ cs ∈ statements, Undivided .code cs
  ended : ∀ cs ∈ statements.dropLast,
    regionAfter .code cs = .code ∨ regionAfter .code cs = .line

theorem AreStatements.tail {first : List Char} {statements : List (List Char)}
    (h : AreStatements (first :: statements)) : AreStatements statements := by
  refine ⟨fun cs hcs => h.trimmed cs (List.mem_cons_of_mem _ hcs),
    fun cs hcs => h.undivided cs (List.mem_cons_of_mem _ hcs), fun cs hcs => h.ended cs ?_⟩
  cases statements with
  | nil => cases hcs
  | cons next statements => exact List.mem_cons_of_mem _ hcs

/-- What is not the last of some members is not the last of all members. -/
private theorem mem_dropLast_of_filter {α : Type} {p : α → Bool} {xs : List α} {x : α}
    (h : x ∈ (xs.filter p).dropLast) : x ∈ xs.dropLast := by
  rcases List.eq_nil_or_concat xs with rfl | ⟨front, last, rfl⟩
  · cases h
  · rw [List.concat_eq_append, List.filter_append] at h
    rw [List.concat_eq_append, List.dropLast_concat]
    have hfront : x ∈ front.filter p := by
      cases hlast : p last with
      | true =>
        rw [List.filter_cons_of_pos hlast, List.filter_nil, List.dropLast_concat] at h
        exact h
      | false =>
        rw [List.filter_cons_of_neg (by simp [hlast]), List.filter_nil, List.append_nil] at h
        exact (List.dropLast_sublist _).subset h
    exact List.mem_of_mem_filter hfront

theorem areStatements_splitChars (cs : List Char) : AreStatements (splitChars cs) := by
  have hseparate := separate_stretches cs
  refine ⟨?_, ?_, ?_⟩
  · intro statement hmem
    obtain ⟨hmap, hne⟩ := List.mem_filter.mp hmem
    obtain ⟨stretch, -, rfl⟩ := List.mem_map.mp hmap
    exact trimmed_trim (by simpa using hne)
  · intro statement hmem
    obtain ⟨stretch, hstretch, rfl⟩ := List.mem_map.mp (List.mem_of_mem_filter hmem)
    exact (hseparate.undivided stretch hstretch).trim
  · intro statement hmem
    have hearlier : statement ∈ ((stretches cs).map trim).dropLast := mem_dropLast_of_filter hmem
    rw [← List.map_dropLast] at hearlier
    obtain ⟨stretch, hstretch, rfl⟩ := List.mem_map.mp hearlier
    exact regionAfter_trim (hseparate.ended stretch hstretch)

theorem splitChars_of_blank {cs : List Char} (h : Blank cs) : splitChars cs = [] := by
  have hplain : ∀ c ∈ cs, ∀ rest, lexeme c rest = (⟨.plain, [c]⟩, rest) :=
    fun c hc rest => (isPlain_of_isBlank (h c hc)).lexeme rest
  have hcut : cut .code cs = (cs, []) := by
    have happend := cut_plain_append hplain []
    rwa [List.append_nil, cut, prepend, List.append_nil] at happend
  have htrim : trim cs = [] := trim_eq_nil_iff.mpr h
  rw [splitChars, stretches, hcut, List.map_singleton, htrim]
  rfl

/-- Statements behind paddings, with a line feed and a separator between neighbours. -/
def disguisedChars (paddings statements : List (List Char)) : List Char :=
  List.intercalate ['\n', ';'] (List.zipWith (· ++ ·) paddings statements)

theorem disguisedChars_cons_cons (padding nextPadding first second : List Char)
    (paddings statements : List (List Char)) :
    disguisedChars (padding :: nextPadding :: paddings) (first :: second :: statements) =
      padding ++ (first ++ '\n' :: ';' ::
        disguisedChars (nextPadding :: paddings) (second :: statements)) := by
  rw [disguisedChars, List.zipWith_cons_cons, List.zipWith_cons_cons,
    List.intercalate_cons_cons, disguisedChars, List.zipWith_cons_cons]
  simp

theorem stretches_of_undivided {cs : List Char} (h : Undivided .code cs) : stretches cs = [cs] := by
  have hcut : cut .code cs = (cs, []) := h
  rw [stretches, hcut]

theorem Padding.undivided_append {padding cs : List Char} (h : Padding padding)
    (hcs : Undivided .code cs) : Undivided .code (padding ++ cs) := by
  have hcut : cut .code cs = (cs, []) := hcs
  rw [Undivided, h.cut_append, hcut, prepend]

/-- Behind padding, a statement with a line feed and a separator behind it is one stretch. -/
theorem Padding.stretches_append {padding cs : List Char} (h : Padding padding)
    (hcs : Undivided .code cs)
    (hended : regionAfter .code cs = .code ∨ regionAfter .code cs = .line) (rest : List Char) :
    stretches (padding ++ (cs ++ '\n' :: ';' :: rest)) =
      (padding ++ (cs ++ ['\n'])) :: stretches rest := by
  have happart : StartsApart ('\n' :: ';' :: rest) := startsApart_cons (by decide) _
  have hcut : cut .code (padding ++ (cs ++ '\n' :: ';' :: rest)) =
      (padding ++ (cs ++ ['\n']), stretches rest) := by
    rw [h.cut_append, hcs.cut_append happart, cut_lineFeed_separator hended, prepend, prepend]
  rw [stretches, hcut]

theorem splitChars_eq_of_stretches {cs first : List Char} {rest : List (List Char)}
    (h : stretches cs = first :: rest) (hfirst : trim first ≠ []) :
    splitChars cs = trim first :: (rest.map trim).filter fun statement => !statement.isEmpty := by
  have hinked : (!(trim first).isEmpty) = true := by simpa using hfirst
  rw [splitChars, h, List.map_cons]
  exact List.filter_cons_of_pos hinked

/-- The statements of the new query are the old ones behind their paddings, trimmed. -/
theorem splitChars_disguisedChars {paddings statements : List (List Char)}
    (hpaddings : ∀ padding ∈ paddings, Padding padding)
    (hlength : paddings.length = statements.length) (h : AreStatements statements) :
    splitChars (disguisedChars paddings statements) =
      List.zipWith (fun padding cs => trim (padding ++ cs)) paddings statements := by
  induction statements generalizing paddings with
  | nil =>
    rw [disguisedChars, List.zipWith_nil_right, List.zipWith_nil_right]
    rfl
  | cons first statements ih =>
    cases paddings with
    | nil => cases hlength
    | cons padding paddings =>
      have hpadding : Padding padding := hpaddings padding List.mem_cons_self
      have hfirst : Undivided .code first := h.undivided first List.mem_cons_self
      have hinked : trim (padding ++ first) ≠ [] := by
        rw [(h.trimmed first List.mem_cons_self).trim_append]
        exact List.append_ne_nil_of_right_ne_nil _ (h.trimmed first List.mem_cons_self).ne_nil
      cases statements with
      | nil =>
        -- The last statement, behind which nothing follows.
        have hstretches : stretches (padding ++ first) = [padding ++ first] :=
          stretches_of_undivided (hpadding.undivided_append hfirst)
        rw [disguisedChars, List.zipWith_cons_cons, List.zipWith_nil_right,
          List.intercalate_singleton, splitChars_eq_of_stretches hstretches hinked,
          List.zipWith_cons_cons, List.zipWith_nil_right]
        rfl
      | cons second statements =>
        cases paddings with
        | nil => cases hlength
        | cons nextPadding paddings =>
          have hpaddings' : ∀ padding ∈ nextPadding :: paddings, Padding padding :=
            fun padding hmem => hpaddings padding (List.mem_cons_of_mem _ hmem)
          have hrest := ih hpaddings' (Nat.succ.inj hlength) h.tail
          have hfeed : trim (padding ++ (first ++ ['\n'])) = trim (padding ++ first) := by
            rw [← List.append_assoc]
            exact trim_append_blank _ (by simp [Blank, isBlank, isWhiteSpace])
          have hstretches := hpadding.stretches_append hfirst (h.ended first List.mem_cons_self)
            (disguisedChars (nextPadding :: paddings) (second :: statements))
          rw [disguisedChars_cons_cons,
            splitChars_eq_of_stretches hstretches (by rwa [hfeed]), hfeed]
          rw [splitChars] at hrest
          rw [hrest]
          rfl

variable {padding cs : List Char}

theorem Padding.leadingWord_append (h : Padding padding) (cs : List Char) :
    leadingWord (trim (padding ++ cs)) = leadingWord cs := by
  rw [leadingWord_trim, leadingWord, h.skip_append, leadingWord]

theorem ReadsOnly.of_trim_append (hcs : Trimmed cs) (h : ReadsOnly (trim (padding ++ cs))) :
    ReadsOnly cs := by
  intro word hword hinfix
  have hsigma : ∀ word ∈ writeWords, '\u03c3' ∉ word.toList ∧ '\u03c2' ∉ word.toList := by decide
  apply h word hword
  rw [hcs.trim_append]
  exact infix_lower_append (hsigma word hword).1 (hsigma word hword).2 _ hinfix

end QueryGate.Sql
