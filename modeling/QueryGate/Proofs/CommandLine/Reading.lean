import QueryGate.CommandLine.Parse
import QueryGate.Proofs.Number.Integer

/-!
# Reading command lines

An option with the value in the next argument is read if, and only if, that argument is a plain one
and the option takes it. So a command line of such pairs is read pair by pair. Plain arguments are,
among others, all integers, also negative ones. What every option of a grammar keeps holds of
whatever its command lines set.
-/

namespace QueryGate.CommandLine

open QueryGate.Number QueryGate.Text

variable {grammar : Grammar} {progress final : Progress} {spec : OptionSpec}

theorem tokens_cons {text : String} (h : text ≠ "--") (rest : List String) :
    grammar.tokens (text :: rest) = (do
      let token ← grammar.classify text
      return token :: (← grammar.tokens rest)) := by
  rw [Grammar.tokens]
  exact fun heq => h heq

theorem named_isOption {text : String} {token : Token} (h : grammar.exact? text = some token) :
    ∃ spec attached, token = .option spec attached := by
  unfold Grammar.exact? at h
  split at h
  · cases h
    exact ⟨_, _, rfl⟩
  · simp only [Option.bind_eq_bind, Option.bind_eq_some_iff] at h
    obtain ⟨_, -, _, -, h⟩ := h
    cases h
    exact ⟨_, _, rfl⟩

/-- An argument that is plain is so as it is. -/
theorem classify_argument {text value : String}
    (h : grammar.classify text = .ok (.argument value)) : value = text := by
  unfold Grammar.classify at h
  split at h
  · cases h
    rfl
  · split at h
    · next token hexact =>
      obtain ⟨spec, attached, rfl⟩ := named_isOption hexact
      cases h
    · split at h
      · cases h
      · split at h
        · cases h
          rfl
        · cases h
      · cases h

/-- The separator is no plain argument. -/
theorem classify_separator (grammar : Grammar) (value : String) :
    grammar.classify "--" ≠ .ok (.argument value) := by
  intro h
  have hdashed : ¬ ((("--" : String).toList.head? != some '-' || "--" == "-") = true) := by decide
  have hnumber : ¬ ((isNegativeNumber "--" || ("--" : String).toList.contains ' ') = true) := by
    decide
  unfold Grammar.classify at h
  rw [if_neg hdashed] at h
  split at h
  · next token hexact =>
    obtain ⟨spec, attached, rfl⟩ := named_isOption hexact
    cases h
  · split at h
    · cases h
    · rw [if_neg hnumber] at h
      cases h
    · cases h

/-- Read arguments after others. -/
def Grammar.read (grammar : Grammar) (progress : Progress) (texts : List String) :
    Except Stop Progress := do
  grammar.take progress (← grammar.tokens texts)

theorem parse_eq_ok_iff {texts : List String} {arguments : Arguments} :
    grammar.parse texts = .ok arguments ↔
      ∃ final, grammar.read ⟨grammar.defaults, grammar.argument.isSome, []⟩ texts = .ok final ∧
        final.leftovers = [] ∧ final.arguments = arguments := by
  unfold Grammar.parse Grammar.read
  cases grammar.tokens texts with
  | error stop => simp [bind, Except.bind]
  | ok tokens =>
    cases htake : grammar.take ⟨grammar.defaults, grammar.argument.isSome, []⟩ tokens with
    | error stop => simp [bind, Except.bind, htake]
    | ok final =>
      cases hleft : final.leftovers with
      | nil => simp [bind, Except.bind, htake, hleft, pure, Except.pure]
      | cons text rest => simp [bind, Except.bind, htake, hleft]

@[simp] theorem read_nil : grammar.read progress [] = .ok progress := rfl

theorem read_pair_eq_ok_iff {spelling value : String} {rest : List String}
    (hspelling : grammar.classify spelling = .ok (.option spec none)) (hne : spelling ≠ "--")
    (htakes : spec.takesValue = true) :
    grammar.read progress (spelling :: value :: rest) = .ok final ↔
      grammar.classify value = .ok (.argument value) ∧
        ∃ arguments, spec.assign value progress.arguments = .ok arguments ∧
          grammar.read { progress with arguments } rest = .ok final := by
  unfold Grammar.read
  rw [tokens_cons hne, hspelling]
  by_cases hvalue : value = "--"
  · subst hvalue
    have hplain := classify_separator grammar "--"
    simp [Grammar.tokens, bind, Except.bind, pure, Except.pure, Grammar.take, htakes, hplain]
  · rw [tokens_cons hvalue]
    cases hclass : grammar.classify value with
    | error stop => simp [bind, Except.bind]
    | ok token =>
      cases hrest : grammar.tokens rest with
      | error stop => simp [bind, Except.bind]
      | ok tokens =>
        cases token with
        | argument text =>
          obtain rfl := classify_argument hclass
          cases hassign : spec.assign text progress.arguments with
          | error stop =>
            simp [bind, Except.bind, pure, Except.pure, Grammar.take, htakes, hassign]
          | ok arguments =>
            simp [bind, Except.bind, pure, Except.pure, Grammar.take, htakes, hassign]
        | _ => simp [bind, Except.bind, pure, Except.pure, Grammar.take, htakes]

theorem assign_transport {value : String} {arguments changed : Arguments}
    (h : spec.target = .transport) : spec.assign value arguments = .ok changed ↔
      ∃ mode, Mode.ofWord? value = some mode ∧
        changed = { arguments with mode := .value mode } := by
  rw [OptionSpec.assign, h]
  dsimp only [modeValue]
  cases Mode.ofWord? value <;> simp [bind, Except.bind, pure, Except.pure, eq_comm]

theorem assign_port {value : String} {arguments changed : Arguments} (h : spec.target = .port) :
    spec.assign value arguments = .ok changed ↔
      ∃ n, readInteger value.toList = .ok n ∧ changed = { arguments with port := .value n } := by
  rw [OptionSpec.assign, h]
  dsimp only [integerValue]
  cases readInteger value.toList <;> simp [bind, Except.bind, pure, Except.pure, eq_comm]

theorem assign_healthPort {value : String} {arguments changed : Arguments}
    (h : spec.target = .healthPort) : spec.assign value arguments = .ok changed ↔
      ∃ n, readInteger value.toList = .ok n ∧
        changed = { arguments with healthPort := some (.value n) } := by
  rw [OptionSpec.assign, h]
  dsimp only [integerValue]
  cases readInteger value.toList <;> simp [bind, Except.bind, pure, Except.pure, eq_comm]

/-- No spelling of an option looks like a negative number. -/
def Grammar.NumberFree (grammar : Grammar) : Prop :=
  ∀ pair ∈ grammar.spellings, ∀ c rest, pair.1.toList = '-' :: c :: rest → c.isDigit = false

theorem digitValue?_isSome {c : Char} (h : c.isDigit = true) : (digitValue? c).isSome = true := by
  have hbound : 48 ≤ c.toNat ∧ c.toNat ≤ 57 := Char.isDigit_iff_toNat.mp h
  have hfirst : (48 ≤ c.toNat && c.toNat ≤ 57) = true := by simpa using hbound
  rw [digitValue?, digitSpans, digitIn, if_pos hfirst]
  rfl

section

variable {digits : List Char} {d : Char}

theorem isNegativeNumber_of_digits {text : String} (htext : text.toList = '-' :: d :: digits)
    (hdigits : ∀ c ∈ d :: digits, c.isDigit = true) : isNegativeNumber text = true := by
  have hlast : text.toList.getLast? ≠ some '\n' := by
    rw [htext, List.getLast?_cons_cons]
    intro hfeed
    exact absurd (hdigits '\n' (List.mem_of_getLast? hfeed)) (by decide)
  have hpoint : ∀ c ∈ d :: digits, (c != '.') = true := by
    intro c hc
    rw [bne_iff_ne]
    rintro rfl
    exact absurd (hdigits '.' hc) (by decide)
  have hwhole : (d :: digits).takeWhile (· != '.') = d :: digits :=
    List.takeWhile_eq_self_iff.mpr hpoint
  have hrest : (d :: digits).dropWhile (· != '.') = [] := List.dropWhile_eq_nil_iff.mpr hpoint
  unfold isNegativeNumber
  split
  · next hfeed => exact absurd hfeed hlast
  · rw [htext]
    simp only [hwhole, hrest]
    rw [allDigits, List.isEmpty_cons, Bool.not_false, Bool.true_and, List.all_eq_true]
    exact fun c hc => digitValue?_isSome (hdigits c hc)

theorem named_of_digits (h : grammar.NumberFree) {text : String}
    (htext : text.toList = '-' :: d :: digits) (hdigits : ∀ c ∈ d :: digits, c.isDigit = true) :
    grammar.exact? text = none := by
  have hlookup : grammar.spellings.lookup text = none := by
    rw [List.lookup_eq_none_iff]
    intro pair hpair
    rw [bne_iff_ne]
    rintro rfl
    have hd := h pair hpair d digits htext
    rw [hdigits d List.mem_cons_self] at hd
    cases hd
  have hequals : splitAtEquals text = none := by
    have hnone : text.toList.dropWhile (· != '=') = [] := by
      rw [List.dropWhile_eq_nil_iff, htext, List.forall_mem_cons]
      refine ⟨rfl, fun c hc => ?_⟩
      rw [bne_iff_ne]
      rintro rfl
      exact absurd (hdigits '=' hc) (by decide)
    rw [splitAtEquals, hnone]
  unfold Grammar.exact?
  rw [hlookup, hequals]
  rfl

theorem classify_of_head {text : String} (h : text.toList.head? ≠ some '-') :
    grammar.classify text = .ok (.argument text) := by
  rw [Grammar.classify, if_pos (by simp [h])]

private theorem spellings_of_digit (h : grammar.NumberFree) (hd : d.isDigit = true) :
    (grammar.spellings.filter fun (spelling, _) => spelling == String.ofList ['-', d]) = [] := by
  rw [List.filter_eq_nil_iff]
  rintro ⟨spelling, option⟩ hpair hsame
  obtain rfl : spelling = String.ofList ['-', d] := by simpa using hsame
  have hfree := h _ hpair d [] String.toList_ofList
  rw [hd] at hfree
  cases hfree

theorem candidates_of_digits (h : grammar.NumberFree) {text : String}
    (htext : text.toList = '-' :: d :: digits) (hdigits : ∀ c ∈ d :: digits, c.isDigit = true) :
    grammar.candidates text = [] := by
  have hd := hdigits d List.mem_cons_self
  have hdash : d ≠ '-' := by
    rintro rfl
    exact absurd hd (by decide)
  unfold Grammar.candidates
  rw [htext]
  split
  · next heq => exact absurd (List.cons.inj (List.cons.inj heq).2).1 hdash
  · next heq =>
    obtain ⟨rfl, -⟩ := List.cons.inj (List.cons.inj heq).2
    rw [spellings_of_digit h hd]
    rfl
  · rfl

theorem classify_of_digits (h : grammar.NumberFree) {text : String}
    (htext : text.toList = '-' :: d :: digits) (hdigits : ∀ c ∈ d :: digits, c.isDigit = true) :
    grammar.classify text = .ok (.argument text) := by
  have hlone : ¬ (text.toList.head? != some '-' || text == "-") = true := by
    have hne : text ≠ "-" := by
      rintro rfl
      cases htext
    simp [htext, hne]
  rw [Grammar.classify, if_neg hlone, named_of_digits h htext hdigits]
  dsimp only
  rw [candidates_of_digits h htext hdigits]
  dsimp only
  rw [isNegativeNumber_of_digits htext hdigits, Bool.true_or, if_pos rfl]

end

/-- Integers are plain arguments, also negative ones. -/
theorem classify_toString (h : grammar.NumberFree) (n : Int) :
    grammar.classify (toString n) = .ok (.argument (toString n)) := by
  have htext := toList_toString n
  have hne : Nat.toDigits 10 n.natAbs ≠ [] := Nat.toDigits_ne_nil
  obtain ⟨d, digits, hdecimal⟩ := List.exists_cons_of_ne_nil hne
  have hdigits : ∀ c ∈ d :: digits, c.isDigit = true := by
    rw [← hdecimal]
    exact fun c hc => isDigit_of_mem_decimal hc
  rw [hdecimal] at htext
  by_cases hsign : n < 0
  · rw [if_pos hsign, List.singleton_append] at htext
    exact classify_of_digits h htext hdigits
  · rw [if_neg hsign, List.nil_append] at htext
    apply classify_of_head
    rw [htext, List.head?_cons]
    intro hdash
    obtain rfl : d = '-' := Option.some.inj hdash
    exact absurd (hdigits '-' List.mem_cons_self) (by decide)

theorem of_bind_eq_ok {ε α β : Type} {first : Except ε α} {next : α → Except ε β} {b : β}
    (h : first >>= next = .ok b) : ∃ a, first = .ok a ∧ next a = .ok b := by
  cases first with
  | error e => cases h
  | ok a => exact ⟨a, rfl, h⟩

/-- Every option keeps the property, and so does the argument that selects the transport. -/
structure Grammar.Keeps (grammar : Grammar) (P : Arguments → Prop) : Prop where
  assign : ∀ option ∈ grammar.options, ∀ {value : String} {arguments changed : Arguments},
    P arguments → option.assign value arguments = .ok changed → P changed
  clear : ∀ option ∈ grammar.options, ∀ {arguments : Arguments}, P arguments →
    P (option.clear arguments)
  choose : ∀ {arguments : Arguments} (mode : Mode), P arguments →
    P { arguments with mode := .value mode }

/-- An option among the arguments is one of the grammar. -/
def Grammar.Knows (grammar : Grammar) : Token → Prop
  | .option spec _ => spec ∈ grammar.options
  | _ => True

theorem mem_options_of_spelling {pair : String × OptionSpec} (h : pair ∈ grammar.spellings) :
    pair.2 ∈ grammar.options := by
  obtain ⟨option, hoption, hpair⟩ := List.mem_flatMap.mp h
  obtain ⟨spelling, -, rfl⟩ := List.mem_map.mp hpair
  exact hoption

theorem mem_options_of_lookup {spelling : String} {option : OptionSpec}
    (h : grammar.spellings.lookup spelling = some option) : option ∈ grammar.options := by
  obtain ⟨front, back, hspellings, -⟩ := List.lookup_eq_some_iff.mp h
  have hmem : (spelling, option) ∈ grammar.spellings := by simp [hspellings]
  exact mem_options_of_spelling hmem

theorem named_known {text : String} {token : Token} (h : grammar.exact? text = some token) :
    grammar.Knows token := by
  unfold Grammar.exact? at h
  split at h
  · next hlookup =>
    cases h
    exact mem_options_of_lookup hlookup
  · simp only [Option.bind_eq_bind, Option.bind_eq_some_iff] at h
    obtain ⟨_, -, _, hlookup, h⟩ := h
    cases h
    exact mem_options_of_lookup hlookup

theorem candidates_known {text spelling : String} {option : OptionSpec}
    {attached : Option Attached} (h : (spelling, option, attached) ∈ grammar.candidates text) :
    option ∈ grammar.options := by
  unfold Grammar.candidates at h
  split at h
  · obtain ⟨pair, hpair, heq⟩ := List.mem_map.mp h
    cases heq
    exact mem_options_of_spelling (List.mem_filter.mp hpair).1
  · obtain ⟨pair, hpair, heq⟩ := List.mem_map.mp h
    cases heq
    exact mem_options_of_spelling (List.mem_filter.mp hpair).1
  · cases h

theorem classify_known {text : String} {token : Token} (h : grammar.classify text = .ok token) :
    grammar.Knows token := by
  unfold Grammar.classify at h
  split at h
  · cases h
    trivial
  · split at h
    · next hexact =>
      cases h
      exact named_known hexact
    · split at h
      · next hcandidates =>
        cases h
        exact candidates_known (by rw [hcandidates]; exact List.mem_singleton_self _)
      · split at h <;> cases h <;> trivial
      · cases h

theorem tokens_known {texts : List String} {tokens : List Token}
    (h : grammar.tokens texts = .ok tokens) : ∀ token ∈ tokens, grammar.Knows token := by
  induction texts generalizing tokens with
  | nil =>
    cases h
    exact fun _ hmem => by cases hmem
  | cons text texts ih =>
    by_cases htext : text = "--"
    · subst htext
      rw [Grammar.tokens] at h
      cases h
      rw [List.forall_mem_cons]
      refine ⟨trivial, fun token hmem => ?_⟩
      obtain ⟨_, -, rfl⟩ := List.mem_map.mp hmem
      trivial
    · rw [tokens_cons htext] at h
      cases hclass : grammar.classify text with
      | error stop => simp [hclass, bind, Except.bind] at h
      | ok token =>
        cases hrest : grammar.tokens texts with
        | error stop => simp [hclass, hrest, bind, Except.bind] at h
        | ok tokens =>
          obtain rfl : token :: tokens = _ := by
            simpa [hclass, hrest, bind, Except.bind, pure, Except.pure] using h
          exact List.forall_mem_cons.mpr ⟨classify_known hclass, ih hrest⟩

namespace Grammar.Keeps

variable {P : Arguments → Prop}

theorem assignAttached (h : grammar.Keeps P) (hspec : spec ∈ grammar.options) {attached : Attached}
    {arguments changed : Arguments} (hP : P arguments)
    (hassign : grammar.assignAttached spec attached arguments = .ok changed) : P changed := by
  unfold Grammar.assignAttached at hassign
  split at hassign
  · split at hassign
    · cases hassign
      exact h.clear spec hspec hP
    · exact h.assign spec hspec hP hassign
  · split at hassign <;> cases hassign

theorem choose' (h : grammar.Keeps P) {text : String} {chosen : Progress}
    (hP : P progress.arguments) (hchoose : progress.choose text = .ok chosen) :
    P chosen.arguments := by
  obtain ⟨mode, -, hchosen⟩ := of_bind_eq_ok hchoose
  cases hchosen
  exact h.choose mode hP

theorem take (h : grammar.Keeps P) {tokens : List Token}
    (htokens : ∀ token ∈ tokens, grammar.Knows token) (hP : P progress.arguments)
    (htake : grammar.take progress tokens = .ok final) : P final.arguments := by
  -- Only options and the argument of the transport change what is set; the rest is passed over.
  fun_induction Grammar.take grammar progress tokens with
  | case1 =>
    cases htake
    exact hP
  | case2 progress spec attached rest ih =>
    rw [List.forall_mem_cons] at htokens
    obtain ⟨arguments, hassign, htake⟩ := of_bind_eq_ok htake
    exact ih arguments htokens.2 (h.assignAttached htokens.1 hP hassign) htake
  | case3 progress spec _ value rest ih =>
    rw [List.forall_mem_cons, List.forall_mem_cons] at htokens
    obtain ⟨arguments, hassign, htake⟩ := of_bind_eq_ok htake
    exact ih arguments htokens.2.2 (h.assign spec htokens.1 hP hassign) htake
  | case4 => cases htake
  | case5 => cases htake
  | case6 progress text rest ih =>
    exact ih (List.forall_mem_cons.mp htokens).2 hP htake
  | case7 progress text rest _ ih =>
    rw [List.forall_mem_cons] at htokens
    obtain ⟨chosen, hchoose, htake⟩ := of_bind_eq_ok htake
    have hchosen := h.choose' hP hchoose
    have ih := ih chosen
    cases rest with
    | nil => exact ih htokens.2 hchosen htake
    | cons token rest => cases token with
      | separator => exact ih (List.forall_mem_cons.mp htokens.2).2 hchosen htake
      | _ => exact ih htokens.2 hchosen htake
  | case8 progress text rest _ ih =>
    exact ih (List.forall_mem_cons.mp htokens).2 hP htake
  | case9 progress _ value rest ih =>
    rw [List.forall_mem_cons, List.forall_mem_cons] at htokens
    obtain ⟨chosen, hchoose, htake⟩ := of_bind_eq_ok htake
    exact ih chosen htokens.2.2 (h.choose' hP hchoose) htake
  | case10 progress rest _ _ ih => exact ih (List.forall_mem_cons.mp htokens).2 hP htake
  | case11 progress rest _ ih => exact ih (List.forall_mem_cons.mp htokens).2 hP htake

theorem parse (h : grammar.Keeps P) (hdefaults : P grammar.defaults) {texts : List String}
    {arguments : Arguments} (hparse : grammar.parse texts = .ok arguments) : P arguments := by
  obtain ⟨final, hread, -, rfl⟩ := parse_eq_ok_iff.mp hparse
  obtain ⟨tokens, htokens, htake⟩ := of_bind_eq_ok hread
  exact h.take (tokens_known htokens) hdefaults htake

end Grammar.Keeps

end QueryGate.CommandLine
