import Mathlib.Data.List.Forall2
import Mathlib.Tactic.ByContra
import QueryGate.Proofs.Number.Integer
import QueryGate.Validation.Check

/-!
# What checks accept and report

A record is accepted exactly if all of its fields are, and a list exactly if all of its items are;
for the rules for single values it is said here which values they accept, and what they make of
them. A record reports the violations of all its fields, in the order of their declaration. A
field whose value is read by one rule reports one violation at most: the issue of the rule, at the
place of the field.
-/

namespace QueryGate.Validation

open QueryGate.Number

theorem check_eq_valid_iff {α : Type} {rule : Rule α} {value : Value} {a : α} :
    rule.check value = .valid a ↔ rule value = .ok a := by
  unfold Rule.check
  cases rule value <;> simp

theorem bind_eq_ok_iff {α : Type} (within : α → Prop) {read : Except Issue α}
    {limit : α → Except Issue α} (hlimit : ∀ a b, limit a = .ok b ↔ a = b ∧ within b) {b : α} :
    read.bind limit = .ok b ↔ read = .ok b ∧ within b := by
  cases read with
  | error issue => exact iff_of_false nofun fun h => nomatch h.1
  | ok a =>
    change limit a = .ok b ↔ _
    rw [hlimit, Except.ok.injEq]

theorem integerFrom_eq_ok_iff {least n : Int} {greatest : Option Int} {value : Value} :
    integerFrom least greatest value = .ok n ↔
      integer value = .ok n ∧ least ≤ n ∧ ∀ bound ∈ greatest, n ≤ bound := by
  refine bind_eq_ok_iff (fun n => least ≤ n ∧ ∀ bound ∈ greatest, n ≤ bound) fun m n => ?_
  by_cases hlow : m < least
  · rw [if_pos hlow]
    exact iff_of_false nofun fun h => by omega
  · rw [if_neg hlow]
    cases greatest with
    | none =>
      rw [Except.ok.injEq]
      exact ⟨fun h => ⟨h, by omega, nofun⟩, And.left⟩
    | some bound =>
      simp only [Option.mem_some_iff, forall_eq']
      by_cases hhigh : bound < m
      · rw [if_pos hhigh]
        exact iff_of_false nofun fun h => by omega
      · rw [if_neg hhigh, Except.ok.injEq]
        exact ⟨fun h => by omega, And.left⟩

theorem integerBetween_eq_ok_iff {least greatest n : Int} {value : Value} :
    integerFrom least (some greatest) value = .ok n ↔
      integer value = .ok n ∧ least ≤ n ∧ n ≤ greatest := by
  rw [integerFrom_eq_ok_iff]
  simp

theorem integerAtLeast_eq_ok_iff {least n : Int} {value : Value} :
    integerFrom least none value = .ok n ↔ integer value = .ok n ∧ least ≤ n := by
  rw [integerFrom_eq_ok_iff]
  simp

theorem nonemptyText_eq_ok_iff {value : Value} {s : String} :
    nonemptyText value = .ok s ↔ text value = .ok s ∧ s ≠ "" := by
  refine bind_eq_ok_iff (· ≠ "") fun s s' => ?_
  by_cases hempty : s = ""
  · subst hempty
    refine iff_of_false nofun ?_
    rintro ⟨rfl, hne⟩
    exact hne rfl
  · rw [if_neg (mt String.isEmpty_iff.mp hempty), Except.ok.injEq]
    constructor
    · rintro rfl
      exact ⟨rfl, hempty⟩
    · exact And.left

theorem exists_orNull_eq_ok_iff {α : Type} {rule : Rule α} {value : Value} :
    (∃ a, orNull rule value = .ok a) ↔ value = .null ∨ ∃ a, rule value = .ok a := by
  have hmap : (∃ a, (rule value).map some = .ok a) ↔ ∃ a, rule value = .ok a := by
    cases rule value <;> simp [Except.map]
  cases value with
  | null => exact iff_of_true ⟨none, rfl⟩ (.inl rfl)
  | _ => simpa [orNull] using hmap

theorem orNull_eq_ok_some_iff {α : Type} {rule : Rule α} {value : Value} {a : α} :
    orNull rule value = .ok (some a) ↔ value ≠ .null ∧ rule value = .ok a := by
  have hmap : (rule value).map some = .ok (some a) ↔ rule value = .ok a := by
    cases rule value <;> simp [Except.map]
  cases value with
  | null => exact iff_of_false nofun fun h => h.1 rfl
  | _ => simpa [orNull] using hmap

theorem below_zero_iff {x : Double} :
    (decide (x = .nan) || x.isNegative) = true ↔ ¬ x.AtLeastZero := by
  rw [Bool.or_eq_true, decide_eq_true_eq]
  constructor
  · rintro (hnan | hnegative) h
    · exact h.isNumber hnan
    · exact Bool.noConfusion (hnegative.symm.trans h.notNegative)
  · intro h
    by_contra hother
    rw [not_or, Bool.not_eq_true] at hother
    exact h ⟨hother.1, hother.2⟩

theorem nonnegativeFloat_eq_ok_iff {value : Value} {x : Double} :
    nonnegativeFloat value = .ok x ↔ float value = .ok x ∧ x.AtLeastZero := by
  refine bind_eq_ok_iff Double.AtLeastZero fun x y => ?_
  by_cases hx : x.AtLeastZero
  · rw [if_neg (mt below_zero_iff.mp (not_not_intro hx)), Except.ok.injEq]
    constructor
    · rintro rfl
      exact ⟨rfl, hx⟩
    · exact And.left
  · rw [if_pos (below_zero_iff.mpr hx)]
    refine iff_of_false nofun ?_
    rintro ⟨rfl, hy⟩
    exact hx hy

theorem nonnegativeFloat_of_atLeastZero {x : Double} (h : x.AtLeastZero) :
    nonnegativeFloat (.float x) = .ok x := nonnegativeFloat_eq_ok_iff.mpr ⟨rfl, h⟩

theorem nonnegativeFloat_of_not_atLeastZero {x : Double} (h : ¬ x.AtLeastZero) :
    nonnegativeFloat (.float x) = .error (.below 0) := if_pos (below_zero_iff.mpr h)

variable {α β : Type}

namespace Checked

@[simp] theorem map_eq_valid {f : α → β} {x : Checked α} {b : β} :
    x.map f = .valid b ↔ ∃ a, x = .valid a ∧ f a = b := by
  cases x with
  | valid a => simp [map]
  | invalid violations => simp [map]

@[simp] theorem seq_eq_valid {f : Checked (α → β)} {x : Checked α} {b : β} :
    f.seq x = .valid b ↔ ∃ g a, f = .valid g ∧ x = .valid a ∧ g a = b := by
  cases f <;> cases x <;> simp [seq]

@[simp] theorem under_eq_valid {step : Step} {x : Checked α} {a : α} :
    x.under step = .valid a ↔ x = .valid a := by
  cases x with
  | valid a => rfl
  | invalid violations => simp [under]

theorem valid_map {x : Checked α} {a : α} (f : α → β) (h : x = .valid a) :
    f <$> x = .valid (f a) := by
  rw [h]
  rfl

theorem valid_seq {f : Checked (α → β)} {g : α → β} {x : Checked α} {a : α} (hf : f = .valid g)
    (hx : x = .valid a) : f <*> x = .valid (g a) := by
  rw [hf, hx]
  rfl

end Checked

/-- The items of an accepted list are accepted one by one. -/
theorem checkItems_eq_valid {check : Check α} {items : List Value} {values : List α} {index : Nat}
    (h : checkItems check index items = .valid values) :
    List.Forall₂ (fun item value => check item = .valid value) items values := by
  induction items generalizing index values with
  | nil =>
    cases h
    exact .nil
  | cons item items ih =>
    simp only [checkItems, Checked.seq_eq_valid, Checked.map_eq_valid,
      Checked.under_eq_valid] at h
    obtain ⟨_, rest, ⟨value, hvalue, rfl⟩, hrest, rfl⟩ := h
    exact .cons hvalue (ih hrest)

theorem checkItems_map {check : Check α} {f : α → Value} {values : List α}
    (h : ∀ value ∈ values, check (f value) = .valid value) (index : Nat) :
    checkItems check index (values.map f) = .valid values := by
  induction values generalizing index with
  | nil => rfl
  | cons value values ih =>
    rw [List.forall_mem_cons] at h
    rw [List.map_cons, checkItems, h.1, ih h.2]
    rfl

theorem checkItems_anyObject (rows : List Entries) (index : Nat) :
    checkItems anyObject index (rows.map Value.object) = .valid rows :=
  checkItems_map (fun row _ => (rfl : anyObject (.object row) = .valid row)) index

theorem required_eq_valid {field : FieldKey} {check : Check α} {entries : Entries} {key : String}
    {value : Value} {a : α} (hfind : field.find? entries = some (key, value))
    (hcheck : check value = .valid a) : required field check entries = .valid a := by
  rw [required, hfind]
  exact Checked.under_eq_valid.mpr hcheck

theorem optional_eq_valid {field : FieldKey} {default : α} {check : Check α} {entries : Entries}
    {key : String} {value : Value} {a : α} (hfind : field.find? entries = some (key, value))
    (hcheck : check value = .valid a) :
    Validation.optional field default check entries = .valid a := by
  rw [Validation.optional, hfind]
  exact Checked.under_eq_valid.mpr hcheck

theorem exists_of_required {field : FieldKey} {check : Check α} {entries : Entries} {a : α}
    (h : required field check entries = .valid a) : ∃ value, check value = .valid a := by
  rw [required] at h
  split at h
  · exact ⟨_, Checked.under_eq_valid.mp h⟩
  · cases h

theorem eq_default_or_exists_of_optional {field : FieldKey} {default : α} {check : Check α}
    {entries : Entries} {a : α} (h : Validation.optional field default check entries = .valid a) :
    a = default ∨ ∃ value, check value = .valid a := by
  rw [Validation.optional] at h
  split at h
  · exact .inr ⟨_, Checked.under_eq_valid.mp h⟩
  · cases h
    exact .inl rfl

theorem exists_of_recordOf {name : String} {fields : Entries → Checked α} {value : Value} {a : α}
    (h : recordOf name fields value = .valid a) : ∃ entries, fields entries = .valid a := by
  rw [recordOf.eq_def] at h
  split at h
  · exact ⟨_, h⟩
  · cases h

theorem recordOf_map {name : String} {fields : Entries → Checked α} (f : α → β) (value : Value) :
    recordOf name (fun entries => f <$> fields entries) value =
      f <$> recordOf name fields value := by
  cases value <;> rfl

/-- Records of a kind in a list are accepted by their entries. -/
theorem listOf_recordOf_eq_valid {name : String} {fields : Entries → Checked α}
    {rows : List Entries} {values : List α}
    (h : listOf (recordOf name fields) (.list (rows.map .object)) = .valid values) :
    List.Forall₂ (fun row value => fields row = .valid value) rows values :=
  List.forall₂_map_left_iff.mp (checkItems_eq_valid h)

/-- A violation as a report names it: its place and the issue, without the value found there. -/
def Violation.named (violation : Violation) : String × Issue :=
  (violation.location, violation.issue)

namespace Checked

@[simp] theorem violations_map (f : α → β) (x : Checked α) :
    (f <$> x).violations = x.violations := by
  cases x <;> rfl

@[simp] theorem violations_seq (f : Checked (α → β)) (x : Checked α) :
    (f <*> x).violations = f.violations ++ x.violations := by
  change (f.seq x).violations = _
  cases f <;> cases x <;> simp [seq, violations]

theorem named_map (f : α → β) {x : Checked α} {issues : List (String × Issue)}
    (h : x.violations.map (·.named) = issues) : (f <$> x).violations.map (·.named) = issues := by
  rw [violations_map, h]

theorem named_seq {f : Checked (α → β)} {x : Checked α} {front back : List (String × Issue)}
    (hf : f.violations.map (·.named) = front) (hx : x.violations.map (·.named) = back) :
    (f <*> x).violations.map (·.named) = front ++ back := by
  rw [violations_seq, List.map_append, hf, hx]

/-- Whatever is refused is refused because of some violation. -/
def Founded (x : Checked α) : Prop := x.violations = [] → ∃ value, x = .valid value

theorem Founded.map {x : Checked α} (h : x.Founded) (f : α → β) : (f <$> x).Founded := by
  intro hnone
  obtain ⟨value, rfl⟩ := h ((violations_map f x).symm.trans hnone)
  exact ⟨f value, rfl⟩

theorem Founded.seq {f : Checked (α → β)} {x : Checked α} (hf : f.Founded) (hx : x.Founded) :
    (f <*> x).Founded := by
  intro hnone
  rw [violations_seq, List.append_eq_nil_iff] at hnone
  obtain ⟨g, rfl⟩ := hf hnone.1
  obtain ⟨value, rfl⟩ := hx hnone.2
  exact ⟨g value, rfl⟩

theorem Founded.exists_valid_iff {x : Checked α} (h : x.Founded) :
    (∃ value, x = .valid value) ↔ x.violations = [] := by
  refine ⟨?_, h⟩
  rintro ⟨value, rfl⟩
  rfl

end Checked

/-- What is read of a field, or what is wrong with it. An absent field has its default, and is
missed if it has none. -/
def fieldValue (key : String) (default? : Option α) (rule : Rule α) (entries : Entries) :
    Except Issue α :=
  match entries.find? key, default? with
  | some value, _ => rule value
  | none, some default => .ok default
  | none, none => .error .missing

/-- The issue of a value that is refused. -/
def refusal? : Except Issue α → Option Issue
  | .ok _ => none
  | .error issue => some issue

/-- A field is checked as its value is read. An issue is reported once, at the field. -/
inductive Reports (key : String) : Except Issue α → Checked α → Prop where
  | accepted (value : α) : Reports key (.ok value) (.valid value)
  | refused (issue : Issue) (input : Value) :
      Reports key (.error issue) (.invalid [⟨[.field key], issue, input⟩])

theorem reports_under (key : String) (rule : Rule α) (value : Value) :
    Reports key (rule value) ((rule.check value).under (.field key)) := by
  unfold Rule.check
  cases rule value with
  | ok accepted => exact .accepted accepted
  | error issue => exact .refused issue value

theorem required_reports (key : String) (rule : Rule α) (entries : Entries) :
    Reports key (fieldValue key none rule entries) (required key rule.check entries) := by
  unfold fieldValue required FieldKey.find?
  cases entries.find? key with
  | none => exact .refused .missing _
  | some value => exact reports_under key rule value

theorem optional_reports (key : String) (default : α) (rule : Rule α) (entries : Entries) :
    Reports key (fieldValue key (some default) rule entries)
      (optional key default rule.check entries) := by
  unfold fieldValue optional FieldKey.find?
  cases entries.find? key with
  | none => exact .accepted default
  | some value => exact reports_under key rule value

namespace Reports

variable {key : String} {read : Except Issue α} {x : Checked α}

theorem eq_valid_iff (h : Reports key read x) {value : α} :
    x = .valid value ↔ read = .ok value := by
  cases h <;> simp

theorem founded (h : Reports key read x) : x.Founded := by
  cases h with
  | accepted value => exact fun _ => ⟨value, rfl⟩
  | refused issue input => exact fun hnone => nomatch hnone

theorem named (h : Reports key read x) :
    x.violations.map (·.named) = ((refusal? read).map fun issue => (key, issue)).toList := by
  cases h with
  | accepted value => rfl
  | refused issue input =>
    have hlocation : Violation.location ⟨[.field key], issue, input⟩ = key := by
      simp [Violation.location, Step.text, Text.joinWith]
    simp [Checked.violations, Violation.named, refusal?, hlocation]

end Reports

end QueryGate.Validation
