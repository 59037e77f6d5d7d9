import QueryGate.Proofs.Gate.Report
import QueryGate.Proofs.Number.Integer
import QueryGate.Value.Conversion

/-!
# Quoted names in generated SQL

Whatever characters a name holds, its quoted form is one whole lexeme: doubled quotes stay inside
it, and only its last quote ends it. Hence the query that reads rows of a table is one statement,
in which both names are quoted texts, and which the gate takes for a read.
-/

namespace QueryGate.Sql

open QueryGate.Text

variable {schema table : String}

theorem doubleQuotes_cons_ne {c : Char} (hc : c ≠ '"') (rest : List Char) :
    doubleQuotes (c :: rest) = c :: doubleQuotes rest := by
  rw [doubleQuotes, if_neg hc]

/-- A quoted name ends at its last quote if no quote follows. -/
theorem throughQuote_doubleQuotes (name : List Char) {rest : List Char}
    (hrest : rest.head? ≠ some '"') :
    throughQuote '"' (doubleQuotes name ++ '"' :: rest) = (doubleQuotes name ++ ['"'], rest) := by
  induction name with
  | nil =>
    cases rest with
    | nil => rfl
    | cons d rest =>
      have hd : d ≠ '"' := fun hquote => hrest (by rw [hquote]; rfl)
      rw [doubleQuotes, List.nil_append, List.nil_append, throughQuote, if_pos rfl, if_neg hd]
  | cons c name ih =>
    by_cases hc : c = '"'
    · subst hc
      rw [doubleQuotes, if_pos rfl, List.cons_append, List.cons_append, throughQuote, if_pos rfl,
        if_pos rfl, ih]
      rfl
    · rw [doubleQuotes_cons_ne hc, List.cons_append]
      -- The text goes on behind the character, at the latest with the last quote.
      cases hmore : doubleQuotes name ++ '"' :: rest with
      | nil => simp at hmore
      | cons d more =>
        rw [throughQuote, if_neg hc, ← hmore, ih]
        rfl

theorem lexemes_quotedChars_append (name : List Char) {rest : List Char}
    (hrest : rest.head? ≠ some '"') :
    lexemes (quotedChars name ++ rest) = ⟨.quoted, quotedChars name⟩ :: lexemes rest := by
  have hlexeme : lexeme '"' (doubleQuotes name ++ '"' :: rest) =
      (⟨.quoted, quotedChars name⟩, rest) := by
    rw [lexeme, throughQuote_doubleQuotes name hrest]
    rfl
  have htext : quotedChars name ++ rest = '"' :: (doubleQuotes name ++ '"' :: rest) := by
    rw [quotedChars, List.cons_append, List.append_assoc]
    rfl
  rw [htext, lexemes_cons, hlexeme]

/-- Lexemes of one character each. -/
def plainly (cs : List Char) : List Lexeme := cs.map fun c => ⟨.plain, [c]⟩

theorem plainly_append (cs ds : List Char) : plainly (cs ++ ds) = plainly cs ++ plainly ds :=
  List.map_append

/-- The character is a lexeme by itself, whatever follows. -/
def IsPlain (c : Char) : Prop := c ∉ ['-', '/', '\x27', '"', ';']

instance : DecidablePred IsPlain := fun _ => inferInstanceAs (Decidable (¬ _))

theorem IsPlain.lexeme {c : Char} (h : IsPlain c) (rest : List Char) :
    lexeme c rest = (⟨.plain, [c]⟩, rest) := by
  simp only [IsPlain, List.mem_cons, List.not_mem_nil, or_false, not_or] at h
  obtain ⟨hdash, hslash, hsingle, hdouble, hseparator⟩ := h
  exact lexeme.eq_6 c rest hsingle hdouble hseparator (fun _ hc _ => hdash hc)
    fun _ hc _ => hslash hc

theorem IsPlain.move {c : Char} (h : IsPlain c) (next : Option Char) :
    Region.code.move c next = .one .code := by
  simp only [IsPlain, List.mem_cons, List.not_mem_nil, or_false, not_or] at h
  simp [Region.move_code, h]

theorem isPlain_of_all {word : List Char} (h : word.all (fun c => decide (IsPlain c)) = true) :
    ∀ c ∈ word, IsPlain c := by
  simpa using h

theorem isPlain_of_isDigit {c : Char} (h : c.isDigit = true) : IsPlain c := by
  have hothers : ['-', '/', '\x27', '"', ';'].all (fun d => !d.isDigit) = true := by decide
  intro hmem
  have hother : (!c.isDigit) = true := List.all_eq_true.mp hothers c hmem
  rw [h] at hother
  cases hother

theorem isBlank_of_isDigit {c : Char} (h : c.isDigit = true) : isBlank c = false := by
  by_contra hblank
  have hword : isWord c = false := isWord_of_isBlank (by simpa using hblank)
  rw [isWord_of_isAlphanum (by simp [Char.isAlphanum, h])] at hword
  cases hword

theorem lexemes_plain_append {word : List Char} (hword : ∀ c ∈ word, IsPlain c)
    (rest : List Char) : lexemes (word ++ rest) = plainly word ++ lexemes rest := by
  induction word with
  | nil => rfl
  | cons c word ih =>
    rw [List.forall_mem_cons] at hword
    rw [List.cons_append, lexemes_cons, hword.1.lexeme, ih hword.2]
    rfl

theorem toList_toString_int (n : Int) : ∃ digits : List Char, digits ≠ [] ∧
    (∀ c ∈ digits, c.isDigit = true) ∧
    ((toString n).toList = digits ∨ (toString n).toList = '-' :: digits) := by
  refine ⟨Nat.toDigits 10 n.natAbs, Nat.toDigits_ne_nil,
    fun c hc => Number.isDigit_of_mem_decimal hc, ?_⟩
  rw [Number.toList_toString]
  by_cases hsign : n < 0
  · exact .inr (by rw [if_pos hsign]; rfl)
  · exact .inl (by rw [if_neg hsign]; rfl)

theorem lexemes_limit (n : Int) : lexemes (toString n).toList = plainly (toString n).toList := by
  obtain ⟨digits, hne, hdigits, htext⟩ := toList_toString_int n
  have hplain : ∀ c ∈ digits, IsPlain c := fun c hc => isPlain_of_isDigit (hdigits c hc)
  have hnumber : lexemes digits = plainly digits := by
    have happend := lexemes_plain_append hplain []
    rwa [List.append_nil, lexemes_nil, List.append_nil] at happend
  rcases htext with htext | htext
  · rw [htext, hnumber]
  · -- A digit follows the sign, so that no comment starts there.
    obtain ⟨d, more, rfl⟩ := List.exists_cons_of_ne_nil hne
    have hd : d ≠ '-' := by
      rintro rfl
      exact absurd (hdigits '-' List.mem_cons_self) (by decide)
    have hsign : lexeme '-' (d :: more) = (⟨.plain, ['-']⟩, d :: more) := by
      simp [lexeme, hd]
    rw [htext, lexemes_cons, hsign, hnumber]
    rfl

/-- The characters of the query that reads rows of a table. -/
def rowsChars (schema table : List Char) (limit : Int) : List Char :=
  "SELECT * FROM ".toList ++ (quotedChars schema ++ ('.' :: (quotedChars table ++
    (" LIMIT ".toList ++ (toString limit).toList))))

theorem quoteIdentifier_eq_ok {name quoted : String} (h : quoteIdentifier name = .ok quoted) :
    quoted.toList = quotedChars name.toList := by
  unfold quoteIdentifier at h
  split at h
  · cases h
  · cases h
    exact String.toList_ofList

theorem qualifiedName_eq_ok {name : String} (h : qualifiedName schema table = .ok name) :
    name.toList = quotedChars schema.toList ++ '.' :: quotedChars table.toList := by
  rw [qualifiedName] at h
  cases hschema : quoteIdentifier schema with
  | error failure =>
    rw [hschema] at h
    cases h
  | ok quotedSchema =>
    cases htable : quoteIdentifier table with
    | error failure =>
      rw [hschema, htable] at h
      cases h
    | ok quotedTable =>
      rw [hschema, htable] at h
      cases h
      rw [String.toList_append, String.toList_append, quoteIdentifier_eq_ok hschema,
        quoteIdentifier_eq_ok htable, List.append_assoc]
      rfl

theorem toList_rowsQuery {name : String} (h : qualifiedName schema table = .ok name)
    (limit : Int) :
    (rowsQuery name (toString limit)).toList = rowsChars schema.toList table.toList limit := by
  have hname := qualifiedName_eq_ok h
  unfold rowsQuery rowsChars
  rw [String.toList_append, String.toList_append, String.toList_append, hname]
  simp only [List.append_assoc]
  rw [List.cons_append]

theorem sampleRowsQueryOf_eq_ok {limit : Value} {query : String}
    (h : sampleRowsQueryOf schema table limit = .ok query) :
    ∃ n, limit.toInteger = .ok n ∧ query.toList = rowsChars schema.toList table.toList n := by
  rw [sampleRowsQueryOf] at h
  cases hname : qualifiedName schema table with
  | error failure =>
    rw [hname] at h
    cases h
  | ok name =>
    cases hlimit : limit.toInteger with
    | error fault =>
      rw [hname, hlimit] at h
      cases h
    | ok n =>
      cases htext : integerText n with
      | error fault =>
        rw [hname, hlimit] at h
        simp only [Except.mapError, bind, Except.bind, htext] at h
        cases h
      | ok digits =>
        rw [hname, hlimit] at h
        simp only [Except.mapError, bind, Except.bind, htext, pure, Except.pure] at h
        cases h
        have hdigits : digits = toString n := by
          unfold integerText at htext
          split at htext <;> cases htext
          rfl
        rw [hdigits, toList_rowsQuery hname]
        exact ⟨n, rfl, rfl⟩

private theorem plain_select : ∀ c ∈ "SELECT * FROM ".toList, IsPlain c := by
  have hall : ∀ c ∈ ['S', 'E', 'L', 'E', 'C', 'T', ' ', '*', ' ', 'F', 'R', 'O', 'M', ' '],
      IsPlain c := isPlain_of_all (by decide)
  exact hall

private theorem plain_limit : ∀ c ∈ " LIMIT ".toList, IsPlain c := by
  have hall : ∀ c ∈ [' ', 'L', 'I', 'M', 'I', 'T', ' '], IsPlain c := isPlain_of_all (by decide)
  exact hall

private theorem head_point (rest : List Char) : ('.' :: rest).head? ≠ some '"' := by
  change some '.' ≠ some '"'
  decide

theorem head_limit (rest : List Char) : (" LIMIT ".toList ++ rest).head? ≠ some '"' := by
  change some ' ' ≠ some '"'
  decide

/-- Both names are whole lexemes of the query, and all other characters are plain. -/
theorem lexemes_rowsChars (schema table : List Char) (limit : Int) :
    lexemes (rowsChars schema table limit) =
      plainly "SELECT * FROM ".toList ++ ⟨.quoted, quotedChars schema⟩ :: ⟨.plain, ['.']⟩ ::
        ⟨.quoted, quotedChars table⟩ :: plainly (" LIMIT ".toList ++ (toString limit).toList) := by
  have hpoint : IsPlain '.' := by decide
  have htable : lexemes (quotedChars table ++ (" LIMIT ".toList ++ (toString limit).toList)) =
      ⟨.quoted, quotedChars table⟩ :: plainly (" LIMIT ".toList ++ (toString limit).toList) := by
    rw [lexemes_quotedChars_append table (head_limit _), lexemes_plain_append plain_limit,
      lexemes_limit, plainly_append]
  unfold rowsChars
  rw [lexemes_plain_append plain_select, lexemes_quotedChars_append schema (head_point _),
    lexemes_cons, hpoint.lexeme, htable]

theorem regionAfter_one {region next : Region} {c : Char} {rest : List Char}
    (h : region.move c rest.head? = .one next) :
    regionAfter region (c :: rest) = regionAfter next rest := by
  rw [regionAfter.eq_def]
  simp only [h]

theorem regionAfter_of_lexeme_plain {c : Char} {rest : List Char}
    (h : (lexeme c rest).1 = ⟨.plain, [c]⟩) :
    regionAfter .code (c :: rest) = regionAfter .code rest :=
  regionAfter_one (move_of_lexeme_plain (by rw [h]))

theorem regionAfter_of_plainly {cs : List Char} (h : lexemes cs = plainly cs) :
    regionAfter .code cs = .code := by
  induction cs with
  | nil => rfl
  | cons c rest ih =>
    rw [lexemes_cons, plainly, List.map_cons, List.cons.injEq] at h
    have hrest : (lexeme c rest).2 = rest := by
      have happend := lexeme_append c rest
      rw [h.1] at happend
      exact (List.cons.inj happend).2
    rw [hrest] at h
    rw [regionAfter_of_lexeme_plain h.1, ih h.2]

theorem regionAfter_plain_append {word : List Char} (hword : ∀ c ∈ word, IsPlain c)
    (rest : List Char) : regionAfter .code (word ++ rest) = regionAfter .code rest := by
  induction word with
  | nil => rfl
  | cons c word ih =>
    rw [List.forall_mem_cons] at hword
    have hlexeme := congrArg Prod.fst (hword.1.lexeme (word ++ rest))
    rw [List.cons_append, regionAfter_of_lexeme_plain hlexeme, ih hword.2]

private theorem regionAfter_double (name : List Char) {rest : List Char}
    (hrest : rest.head? ≠ some '"') :
    regionAfter .double (doubleQuotes name ++ '"' :: rest) = regionAfter .code rest := by
  induction name with
  | nil =>
    have hmove : Region.double.move '"' rest.head? = .one .code := by
      rw [Region.move_double, if_pos rfl, if_neg hrest]
    exact regionAfter_one hmove
  | cons c name ih =>
    by_cases hc : c = '"'
    · subst hc
      exact ih
    · rw [doubleQuotes_cons_ne hc, List.cons_append,
        regionAfter_one (by rw [Region.move_double, if_neg hc]), ih]

theorem regionAfter_quotedChars_append (name : List Char) {rest : List Char}
    (hrest : rest.head? ≠ some '"') :
    regionAfter .code (quotedChars name ++ rest) = regionAfter .code rest := by
  have htext : quotedChars name ++ rest = '"' :: (doubleQuotes name ++ '"' :: rest) := by
    rw [quotedChars, List.cons_append, List.append_assoc]
    rfl
  have hopened : regionAfter .code ('"' :: (doubleQuotes name ++ '"' :: rest)) =
      regionAfter .double (doubleQuotes name ++ '"' :: rest) := rfl
  rw [htext, hopened, regionAfter_double name hrest]

theorem regionAfter_rowsChars (schema table : List Char) (limit : Int) :
    regionAfter .code (rowsChars schema table limit) = .code := by
  have hpoint : ∀ c ∈ ['.'], IsPlain c := isPlain_of_all (by decide)
  have hlimit : regionAfter .code (toString limit).toList = .code :=
    regionAfter_of_plainly (lexemes_limit limit)
  unfold rowsChars
  rw [regionAfter_plain_append plain_select, regionAfter_quotedChars_append schema (head_point _),
    ← List.singleton_append, regionAfter_plain_append hpoint,
    regionAfter_quotedChars_append table (head_limit _), regionAfter_plain_append plain_limit,
    hlimit]

theorem pieces_rowsChars (schema table : List Char) (limit : Int) :
    pieces (rowsChars schema table limit) = [rowsChars schema table limit] := by
  have hnone : ∀ l ∈ lexemes (rowsChars schema table limit), l.isSeparator = false := by
    have hplain (cs : List Char) : ∀ l ∈ plainly cs, l.isSeparator = false := by
      intro l hl
      obtain ⟨c, -, rfl⟩ := List.mem_map.mp hl
      simp [Lexeme.isSeparator]
    rw [lexemes_rowsChars]
    intro l hl
    simp only [List.mem_append, List.mem_cons] at hl
    rcases hl with hl | rfl | rfl | rfl | hl
    · exact hplain _ l hl
    · simp [Lexeme.isSeparator]
    · simp [Lexeme.isSeparator]
    · simp [Lexeme.isSeparator]
    · exact hplain _ l hl
  rw [pieces, List.splitOnP_eq_singleton hnone, List.map_singleton, written_lexemes]

/-- Nothing is trimmed from the query: it starts with a letter and ends with a digit. -/
theorem trim_rowsChars (schema table : List Char) (limit : Int) :
    trim (rowsChars schema table limit) = rowsChars schema table limit := by
  have hfront : ∀ c ∈ (rowsChars schema table limit).head?, isBlank c = false := by
    intro c hc
    obtain rfl : 'S' = c := Option.some.inj hc
    decide
  have hback : ∀ c ∈ (rowsChars schema table limit).getLast?, isBlank c = false := by
    obtain ⟨digits, hne, hdigits, htext⟩ := toList_toString_int limit
    have hlast : (toString limit).toList.getLast? = digits.getLast? := by
      rcases htext with htext | htext
      · rw [htext]
      · rw [htext, List.getLast?_cons_of_ne_nil hne]
    obtain ⟨front, hfront⟩ : ∃ front, rowsChars schema table limit =
        front ++ (toString limit).toList := by
      refine ⟨"SELECT * FROM ".toList ++ (quotedChars schema ++ ('.' :: (quotedChars table ++
        " LIMIT ".toList))), ?_⟩
      unfold rowsChars
      simp only [List.append_assoc]
      rw [List.cons_append]
      simp only [List.append_assoc]
    have hne : (toString limit).toList ≠ [] := by
      rcases htext with htext | htext
      · rwa [htext]
      · rw [htext]
        exact List.cons_ne_nil _ _
    intro c hc
    rw [hfront, List.getLast?_append_of_ne_nil _ hne, hlast] at hc
    exact isBlank_of_isDigit (hdigits c (List.mem_of_getLast? hc))
  exact trim_eq_self hfront hback

theorem leadingWord_rowsChars (schema table : List Char) (limit : Int) :
    leadingWord (rowsChars schema table limit) = "SELECT".toList := by
  obtain ⟨rest, hrest⟩ : ∃ rest, rowsChars schema table limit = "SELECT ".toList ++ rest := ⟨_, rfl⟩
  have hskip : skip .between ("SELECT ".toList ++ rest) = "SELECT ".toList ++ rest := rfl
  rw [hrest, leadingWord, hskip]
  rfl

section

variable {query : String} {limit : Int}

theorem split_rowsQuery (hquery : query.toList = rowsChars schema.toList table.toList limit) :
    split query = [query] := by
  have hchars : trim query.toList = query.toList := by rw [hquery, trim_rowsChars]
  have hne : query.toList ≠ [] := by
    rw [hquery]
    exact List.cons_ne_nil _ _
  have hpieces : pieces query.toList = [query.toList] := by rw [hquery, pieces_rowsChars]
  rw [split_eq_trimmed_pieces, hpieces, List.map_singleton, hchars]
  simp [hne]

theorem leadingKeyword_rowsQuery
    (hquery : query.toList = rowsChars schema.toList table.toList limit) :
    leadingKeyword query = some "select" := by
  have hword : leadingWord query.toList = ['S', 'E', 'L', 'E', 'C', 'T'] := by
    rw [hquery]
    exact leadingWord_rowsChars _ _ _
  rw [leadingKeyword, hword]
  rfl

theorem isWrite_rowsQuery (hquery : query.toList = rowsChars schema.toList table.toList limit) :
    isWrite query = false := by
  rw [isWrite, leadingKeyword_rowsQuery hquery]
  rfl

/-- The gate that allows no writes accepts the query. -/
theorem judge_rowsQuery (hquery : query.toList = rowsChars schema.toList table.toList limit)
    (channel : String) : (⟨false, channel⟩ : Gate).judge query = .ok () := by
  have hinked : allBlank query = false := by
    rw [allBlank, hquery]
    rfl
  have hreads : firstWrite 1 (split query) = none := by
    rw [split_rowsQuery hquery, firstWrite_eq_none_iff]
    intro statement hmem
    obtain rfl : statement = query := List.mem_singleton.mp hmem
    exact isWrite_rowsQuery hquery
  simp [Gate.judge, hinked, hreads]

end

/-- Whatever the names are, and whatever the limit is, a query for rows of a table is one statement
that reads: both names are whole quoted lexemes and everything else in it is plain, so that the scan
ends outside of quoted texts and comments, and the gate that allows no writes accepts it. -/
theorem sampleRowsQueryOf_one_read {limit : Value} {query : String}
    (h : sampleRowsQueryOf schema table limit = .ok query) :
    (∃ n : Int, lexemes query.toList =
      plainly "SELECT * FROM ".toList ++ ⟨.quoted, quotedChars schema.toList⟩ :: ⟨.plain, ['.']⟩ ::
        ⟨.quoted, quotedChars table.toList⟩ :: plainly (" LIMIT ".toList ++ (toString n).toList)) ∧
    split query = [query] ∧ regionAfter .code query.toList = .code ∧
    leadingKeyword query = some "select" ∧ isWrite query = false ∧
    ∀ {σ : Type} (channel : String) (stage : Stage σ),
      (((⟨false, channel⟩ : Gate).check query).start stage).1 = .ok () := by
  obtain ⟨n, -, hquery⟩ := sampleRowsQueryOf_eq_ok h
  refine ⟨⟨n, ?_⟩, split_rowsQuery hquery, ?_, leadingKeyword_rowsQuery hquery,
    isWrite_rowsQuery hquery, ?_⟩
  · rw [hquery, lexemes_rowsChars]
  · rw [hquery, regionAfter_rowsChars]
  · intro σ channel stage
    rw [Gate.start_check]
    exact Gate.ending_eq_ok_iff.mpr (judge_rowsQuery hquery channel)

theorem integerText_of_lt_hundred {n : Int} (h : n.natAbs < 100) :
    integerText n = .ok (toString n) := by
  rw [integerText, if_pos (Number.fits_of_lt_hundred h)]

/-- A name that tries to end its quoted text and to start another statement. -/
theorem sampleRowsQueryOf_one_read_hostile :
    split "SELECT * FROM \"x\"\"; DROP TABLE t; --\".\"\" LIMIT -1" =
      ["SELECT * FROM \"x\"\"; DROP TABLE t; --\".\"\" LIMIT -1"] := by
  have hlimit : integerText (-1) = .ok "-1" := integerText_of_lt_hundred (by decide)
  have hname : qualifiedName "x\"; DROP TABLE t; --" "" =
      .ok "\"x\"\"; DROP TABLE t; --\".\"\"" := rfl
  have hquery : sampleRowsQueryOf "x\"; DROP TABLE t; --" "" (.int (-1)) =
      .ok "SELECT * FROM \"x\"\"; DROP TABLE t; --\".\"\" LIMIT -1" := by
    simp only [sampleRowsQueryOf, hname, Except.mapError, Value.toInteger, bind, Except.bind,
      hlimit, pure, Except.pure]
    rfl
  exact (sampleRowsQueryOf_one_read hquery).2.1

end QueryGate.Sql
