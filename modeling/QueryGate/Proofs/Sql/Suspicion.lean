import Mathlib.Computability.Language
import QueryGate.Proofs.Text.LetterCase
import QueryGate.Sql.Suspicion

/-!
# The languages of suspicious patterns

Each item of a pattern stands for a language of texts, and the pattern for their product. The search
finds a pattern exactly if some part of the query belongs to that language: it misses no match that
starts late or that only a later end of a gap completes. So whatever is written around a query, the
patterns that it shows are still shown.
-/

namespace QueryGate.Sql

open QueryGate.Text
open scoped Computability

/-- The letters with further forms beside the two of ASCII: long s, capital i with a dot and small i
without one, and the Kelvin sign. -/
def letterForms : List (List Char) :=
  [['s', 'S', '\u017f'], ['i', 'I', '\u0130', '\u0131'], ['k', 'K', '\u212a']]

/-- The two characters are the same letter in any case, or the same character. -/
def SameLetter (c d : Char) : Prop :=
  c.toLower = d.toLower ∨ ∃ forms ∈ letterForms, c ∈ forms ∧ d ∈ forms

/-- The characters beyond ASCII among the forms of letters. -/
def furtherForms : List Char := ['\u017f', '\u0130', '\u0131', '\u212a']

theorem foldCase_toLower (c : Char) : foldCase c.toLower = foldCase c :=
  apply_toLower foldCase (by decide +kernel) c

theorem foldCase_of_notMem {c : Char} (h : c ∉ furtherForms) :
    foldCase c = c.toLower := by
  simp only [furtherForms, List.mem_cons, List.not_mem_nil, or_false, not_or] at h
  simp [foldCase, h]

theorem foldCase_of_mem {c letter : Char} {others : List Char}
    (h : letter :: others ∈ letterForms) (hc : c ∈ letter :: others) : foldCase c = letter := by
  have hall : ∀ forms ∈ letterForms,
      forms.all (fun d => forms.head? == some (foldCase d)) = true := by decide
  have hhead := List.all_eq_true.mp (hall _ h) c hc
  rw [List.head?_cons, beq_iff_eq, Option.some.injEq] at hhead
  exact hhead.symm

theorem exists_letterForms {c : Char} (h : c ∈ furtherForms) :
    ∃ others, foldCase c :: others ∈ letterForms ∧ c ∈ foldCase c :: others := by
  have hall : furtherForms.all (fun d => letterForms.any fun forms =>
      forms.contains d && forms.head? == some (foldCase d)) = true := by decide
  obtain ⟨forms, hforms, hfound⟩ := List.any_eq_true.mp (List.all_eq_true.mp hall c h)
  rw [Bool.and_eq_true, List.contains_iff_mem, beq_iff_eq] at hfound
  obtain ⟨others, rfl⟩ := List.head?_eq_some_iff.mp hfound.2
  exact ⟨others, hforms, hfound.1⟩

theorem mem_of_foldCase_eq {c letter : Char} {others : List Char}
    (h : letter :: others ∈ letterForms) (hfold : foldCase c = letter) : c ∈ letter :: others := by
  have hcapital : ∀ forms ∈ letterForms,
      forms.all (fun d => forms.contains d.toUpper) = true := by decide
  have hheads : ∀ forms ∈ letterForms, ∀ forms' ∈ letterForms,
      forms.head? = forms'.head? → forms = forms' := by decide
  by_cases hfurther : c ∈ furtherForms
  · obtain ⟨others', hothers, hmem⟩ := exists_letterForms hfurther
    rw [hfold] at hothers hmem
    rwa [hheads _ h _ hothers rfl]
  · rw [foldCase_of_notMem hfurther] at hfold
    rcases eq_or_eq_toUpper_of_toLower hfold with rfl | rfl
    · exact List.mem_cons_self
    · simpa using List.all_eq_true.mp (hcapital _ h) letter List.mem_cons_self

/-- Characters have the same representative exactly if they are the same letter in any case. -/
theorem foldCase_eq_iff {c d : Char} : foldCase c = foldCase d ↔ SameLetter c d := by
  constructor
  · intro hfold
    by_cases hforms : ∃ others, foldCase c :: others ∈ letterForms
    · obtain ⟨others, hothers⟩ := hforms
      exact .inr ⟨_, hothers, mem_of_foldCase_eq hothers rfl, mem_of_foldCase_eq hothers hfold.symm⟩
    · have hlower {e : Char} (he : foldCase e = foldCase c) : foldCase e = e.toLower := by
        apply foldCase_of_notMem
        intro hfurther
        obtain ⟨others, hothers, -⟩ := exists_letterForms hfurther
        exact hforms ⟨others, he ▸ hothers⟩
      left
      rw [← hlower rfl, ← hlower hfold.symm, hfold]
  · rintro (hlower | ⟨forms, hforms, hc, hd⟩)
    · rw [← foldCase_toLower c, hlower, foldCase_toLower]
    · cases forms with
      | nil => cases hc
      | cons letter others => rw [foldCase_of_mem hforms hc, foldCase_of_mem hforms hd]

/-- The texts of one character of a class. -/
def single (p : Char → Prop) : Language Char := {cs | ∃ c, p c ∧ cs = [c]}

/-- The texts that an item stands for. -/
def PatternItem.language : PatternItem → Language Char
  | .char letter => single fun c => SameLetter c letter
  | .blanks => (single fun c => isBlank c = true)∗
  | .someBlanks => single (fun c => isBlank c = true) * (single fun c => isBlank c = true)∗
  | .gap => (single fun c => c ≠ '\n')∗

/-- The texts that a pattern stands for. -/
def patternLanguage (items : List PatternItem) : Language Char :=
  (items.map PatternItem.language).prod

theorem mem_kstar_single {p : Char → Prop} {cs : List Char} :
    cs ∈ (single p)∗ ↔ ∀ c ∈ cs, p c := by
  rw [Language.mem_kstar]
  constructor
  · rintro ⟨parts, rfl, hparts⟩ c hc
    obtain ⟨part, hpart, hmem⟩ := List.mem_flatten.mp hc
    obtain ⟨d, hd, rfl⟩ := hparts part hpart
    rwa [List.mem_singleton.mp hmem]
  · intro h
    refine ⟨cs.map fun c => [c], (List.flatMap_singleton' cs).symm, ?_⟩
    simp only [List.forall_mem_map]
    exact fun c hc => ⟨c, h c hc, rfl⟩

/-- Some front part of the text belongs to the language. -/
def StartsIn (language : Language Char) (cs : List Char) : Prop :=
  ∃ front ∈ language, front <+: cs

theorem startsIn_one (cs : List Char) : StartsIn 1 cs := ⟨[], rfl, List.nil_prefix⟩

theorem startsIn_mul {first second : Language Char} {cs : List Char} :
    StartsIn (first * second) cs ↔
      ∃ front ∈ first, ∃ rest, front ++ rest = cs ∧ StartsIn second rest := by
  constructor
  · rintro ⟨_, ⟨front, hfront, back, hback, rfl⟩, rest, rfl⟩
    exact ⟨front, hfront, back ++ rest, by simp, back, hback, List.prefix_append _ _⟩
  · rintro ⟨front, hfront, _, rfl, back, hback, rest, rfl⟩
    exact ⟨front ++ back, ⟨front, hfront, back, hback, rfl⟩, rest, by simp⟩

theorem startsIn_single_mul {p : Char → Prop} {language : Language Char} {cs : List Char} :
    StartsIn (single p * language) cs ↔
      ∃ c rest, p c ∧ cs = c :: rest ∧ StartsIn language rest := by
  rw [startsIn_mul]
  constructor
  · rintro ⟨_, ⟨c, hc, rfl⟩, rest, rfl, hrest⟩
    exact ⟨c, rest, hc, rfl, hrest⟩
  · rintro ⟨c, rest, hc, rfl, hrest⟩
    exact ⟨[c], ⟨c, hc, rfl⟩, rest, rfl, hrest⟩

theorem mem_restsPast_iff {p : Char → Bool} {cs rest : List Char} :
    rest ∈ restsPast p cs ↔ ∃ front, (∀ c ∈ front, p c = true) ∧ front ++ rest = cs := by
  induction cs with
  | nil =>
    simp only [restsPast, List.mem_singleton, List.append_eq_nil_iff]
    constructor
    · rintro rfl
      exact ⟨[], by simp⟩
    · rintro ⟨_, -, -, rfl⟩
      rfl
  | cons c cs ih =>
    rw [restsPast, List.mem_cons]
    constructor
    · rintro (rfl | hmem)
      · exact ⟨[], by simp⟩
      · by_cases hc : p c = true
        · rw [if_pos hc, ih] at hmem
          obtain ⟨front, hfront, rfl⟩ := hmem
          exact ⟨c :: front, List.forall_mem_cons.mpr ⟨hc, hfront⟩, rfl⟩
        · rw [if_neg hc] at hmem
          cases hmem
    · rintro ⟨front, hfront, happend⟩
      cases front with
      | nil => exact .inl happend
      | cons d front =>
        obtain ⟨rfl, rfl⟩ := List.cons.inj happend
        obtain ⟨hd, hfront⟩ := List.forall_mem_cons.mp hfront
        rw [if_pos hd, ih]
        exact .inr ⟨front, hfront, rfl⟩

theorem startsIn_kstar_mul {p : Char → Bool} {language : Language Char} {cs : List Char} :
    StartsIn ((single fun c => p c = true)∗ * language) cs ↔
      ∃ rest ∈ restsPast p cs, StartsIn language rest := by
  simp only [startsIn_mul, mem_kstar_single, mem_restsPast_iff]
  constructor
  · rintro ⟨front, hfront, rest, happend, hrest⟩
    exact ⟨rest, ⟨front, hfront, happend⟩, hrest⟩
  · rintro ⟨rest, ⟨front, hfront, happend⟩, hrest⟩
    exact ⟨front, hfront, rest, happend, hrest⟩

theorem patternLanguage_cons (item : PatternItem) (items : List PatternItem) :
    patternLanguage (item :: items) = item.language * patternLanguage items := by
  rw [patternLanguage, List.map_cons, List.prod_cons, patternLanguage]

theorem matchesFront_iff {items : List PatternItem} {cs : List Char} :
    matchesFront items cs = true ↔ StartsIn (patternLanguage items) cs := by
  induction items generalizing cs with
  | nil => exact iff_of_true rfl (startsIn_one cs)
  | cons item items ih =>
    rw [patternLanguage_cons]
    cases item with
    | char letter =>
      rw [PatternItem.language, startsIn_single_mul]
      cases cs with
      | nil => simp [matchesFront]
      | cons c rest => simp [matchesFront, ih, foldCase_eq_iff]
    | blanks =>
      rw [PatternItem.language, startsIn_kstar_mul, matchesFront]
      simp [ih]
    | someBlanks =>
      rw [PatternItem.language, mul_assoc, startsIn_single_mul]
      cases cs with
      | nil => simp [matchesFront]
      | cons c rest => simp [matchesFront, ih, startsIn_kstar_mul]
    | gap =>
      have hclass : (single fun c => c ≠ '\n') = single fun c => (c != '\n') = true := by simp
      rw [PatternItem.language, hclass, startsIn_kstar_mul, matchesFront]
      simp [ih]

theorem matchesSomewhere_iff {items : List PatternItem} {cs : List Char} :
    matchesSomewhere items cs = true ↔ ∃ part ∈ patternLanguage items, part <:+: cs := by
  induction cs with
  | nil => simp [matchesSomewhere, matchesFront_iff, StartsIn]
  | cons c cs ih =>
    rw [matchesSomewhere, Bool.or_eq_true, matchesFront_iff, ih]
    simp only [StartsIn, List.infix_cons_iff, and_or_left, exists_or]

theorem restsPast_lowered {p : Char → Bool} (h : ∀ c, p c.toLower = p c) (cs : List Char) :
    restsPast p (lowered cs) = (restsPast p cs).map lowered := by
  induction cs with
  | nil => rfl
  | cons c cs ih =>
    rw [lowered_cons, restsPast, restsPast, h, ih, List.map_cons, lowered_cons]
    cases p c <;> rfl

theorem any_restsPast_lowered {p : Char → Bool} (h : ∀ c, p c.toLower = p c)
    {items : List PatternItem}
    (hitems : ∀ cs, matchesFront items (lowered cs) = matchesFront items cs) (cs : List Char) :
    (restsPast p (lowered cs)).any (matchesFront items) =
      (restsPast p cs).any (matchesFront items) := by
  have hcomp : matchesFront items ∘ lowered = matchesFront items := funext hitems
  rw [restsPast_lowered h, List.any_map, hcomp]

theorem matchesFront_lowered (items : List PatternItem) (cs : List Char) :
    matchesFront items (lowered cs) = matchesFront items cs := by
  induction items generalizing cs with
  | nil => rw [matchesFront, matchesFront]
  | cons item items ih =>
    cases item with
    | char letter => cases cs <;> simp [matchesFront, foldCase_toLower, ih]
    | blanks =>
      rw [matchesFront, matchesFront]
      exact any_restsPast_lowered isBlank_toLower ih cs
    | someBlanks =>
      cases cs with
      | nil => rfl
      | cons c cs =>
        rw [lowered_cons, matchesFront, matchesFront, isBlank_toLower,
          any_restsPast_lowered isBlank_toLower ih]
    | gap =>
      have hfeed (c : Char) : (c.toLower != '\n') = (c != '\n') := by
        rw [Bool.eq_iff_iff, bne_iff_ne, bne_iff_ne, ne_eq, toLower_eq_iff (by decide)]
      rw [matchesFront, matchesFront]
      exact any_restsPast_lowered hfeed ih cs

theorem matchesSomewhere_lowered (items : List PatternItem) (cs : List Char) :
    matchesSomewhere items (lowered cs) = matchesSomewhere items cs := by
  induction cs with
  | nil => rfl
  | cons c cs ih =>
    rw [lowered_cons, matchesSomewhere, matchesSomewhere, ← lowered_cons, matchesFront_lowered, ih]

theorem patternSource_injOn :
    ∀ items ∈ suspiciousPatterns, ∀ others ∈ suspiciousPatterns,
      patternSource items = patternSource others → items = others := by
  decide

theorem mem_findSuspicious_iff {items : List PatternItem} (h : items ∈ suspiciousPatterns)
    {query : String} :
    patternSource items ∈ findSuspicious query ↔
      ∃ part ∈ patternLanguage items, part <:+: query.toList := by
  rw [← matchesSomewhere_iff, findSuspicious, List.mem_map]
  constructor
  · rintro ⟨others, hothers, hsource⟩
    obtain ⟨hmem, hmatches⟩ := List.mem_filter.mp hothers
    rwa [patternSource_injOn items h others hmem hsource.symm]
  · intro hmatches
    exact ⟨items, List.mem_filter.mpr ⟨h, hmatches⟩, rfl⟩

/-- The sources of the patterns, as they are written in regular expressions. -/
def patternSources : List String :=
  [";\\s*drop\\s+", ";\\s*delete\\s+from\\s+", "union\\s+all\\s+select\\s+null",
   "/\\*.*\\*/\\s*drop", "--.*drop\\s+", "xp_cmdshell", "exec\\s*\\("]

theorem map_patternSource : suspiciousPatterns.map patternSource = patternSources := by decide

theorem findSuspicious_sublist (query : String) :
    (findSuspicious query).Sublist patternSources := by
  rw [← map_patternSource, findSuspicious]
  exact List.filter_sublist.map patternSource

/-- The report of a query holds the source of a pattern exactly if some part of the query belongs to
the language of the pattern. It lists the sources in the order of the table, each at most once, and
whatever is written before and behind the query, nothing is lost from it. -/
theorem findSuspicious_exact (query : String) :
    suspiciousPatterns.map patternSource = patternSources ∧
    (∀ items ∈ suspiciousPatterns, patternSource items ∈ findSuspicious query ↔
      ∃ part ∈ patternLanguage items, part <:+: query.toList) ∧
    (findSuspicious query).Sublist patternSources ∧ (findSuspicious query).Nodup ∧
    ∀ front back : String, findSuspicious query ⊆ findSuspicious (front ++ query ++ back) := by
  refine ⟨map_patternSource, fun items h => mem_findSuspicious_iff h, findSuspicious_sublist query,
    ?_, ?_⟩
  · have hnodup : patternSources.Nodup := by decide
    exact hnodup.sublist (findSuspicious_sublist query)
  · intro front back source hsource
    obtain ⟨items, hitems, rfl⟩ := List.mem_map.mp hsource
    have hmem := List.mem_of_mem_filter hitems
    obtain ⟨part, hpart, hinfix⟩ := (mem_findSuspicious_iff hmem).mp hsource
    refine (mem_findSuspicious_iff hmem).mpr ⟨part, hpart, hinfix.trans ?_⟩
    rw [String.toList_append, String.toList_append]
    exact List.infix_append _ _ _

/-- The first word that could end the gap is not followed by whitespace, but the second one is. -/
theorem findSuspicious_exact_later :
    (∃ part ∈ patternLanguage (letters "--" ++ [.gap] ++ letters "drop" ++ [.someBlanks]),
      part <:+: "-- drop_a DRoP\u2003".toList) ∧
    "--.*drop\\s+" ∈ findSuspicious ("SELECT 1; " ++ "-- drop_a DRoP\u2003" ++ "x") := by
  obtain ⟨-, hlanguage, -, -, hkept⟩ := findSuspicious_exact "-- drop_a DRoP\u2003"
  have hshown : "--.*drop\\s+" ∈ findSuspicious "-- drop_a DRoP\u2003" := by decide
  exact ⟨(hlanguage _ (by decide)).mp hshown, hkept "SELECT 1; " "x" hshown⟩

end QueryGate.Sql
