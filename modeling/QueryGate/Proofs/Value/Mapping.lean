import QueryGate.Value.Conversion

/-!
# Reading rows as mappings

An object is read as its own entries. A value that is no mapping fails, and then its fault is one
of the plain exceptions: reading never fails with an error of the service or of the driver.
-/

namespace QueryGate

/-- The first failure of a pass through a list is that of one of its elements. -/
theorem exists_mem_of_mapM_eq_error {ε α β : Type} {f : α → Except ε β} {as : List α} {e : ε}
    (h : as.mapM f = .error e) : ∃ a ∈ as, f a = .error e := by
  induction as with
  | nil => cases h
  | cons a as ih =>
    rw [List.mapM_cons] at h
    cases ha : f a with
    | error e' =>
      rw [ha] at h
      cases h
      exact ⟨a, List.mem_cons_self, ha⟩
    | ok b =>
      cases has : as.mapM f with
      | error e' =>
        rw [ha, has] at h
        cases h
        obtain ⟨a', hmem, ha'⟩ := ih has
        exact ⟨a', List.mem_cons_of_mem a hmem, ha'⟩
      | ok bs =>
        rw [ha, has] at h
        cases h

def Fault.IsPlain (fault : Fault) : Prop := ∃ kind message, fault = .plain kind message

theorem Value.isPlain_of_keyText {value : Value} {fault : Fault}
    (h : value.keyText = .error fault) : fault.IsPlain := by
  cases value with
  | list items => cases h; exact ⟨_, _, rfl⟩
  | object entries => cases h; exact ⟨_, _, rfl⟩
  | _ => cases h

namespace Entries

variable {fault : Fault}

theorem isPlain_of_entryOf {index : Nat} {part : Value} (h : entryOf index part = .error fault) :
    fault.IsPlain := by
  unfold entryOf at h
  split at h
  · cases h
    exact ⟨_, _, rfl⟩
  · rename_i key value _
    cases hkey : key.keyText with
    | error keyFault =>
      rw [hkey] at h
      cases h
      exact Value.isPlain_of_keyText hkey
    | ok text =>
      rw [hkey] at h
      cases h
  · cases h
    exact ⟨_, _, rfl⟩

theorem isPlain_of_ofParts {index : Nat} {parts : List Value}
    (h : ofParts index parts = .error fault) : fault.IsPlain := by
  induction parts generalizing index with
  | nil => cases h
  | cons part rest ih =>
    rw [ofParts] at h
    cases hentry : entryOf index part with
    | error entryFault =>
      rw [hentry] at h
      cases h
      exact isPlain_of_entryOf hentry
    | ok entry =>
      cases hrest : ofParts (index + 1) rest with
      | error restFault =>
        rw [hentry, hrest] at h
        cases h
        exact ih hrest
      | ok entries =>
        rw [hentry, hrest] at h
        cases h

theorem isPlain_of_ofValue {value : Value} (h : ofValue value = .error fault) :
    fault.IsPlain := by
  unfold ofValue at h
  split at h
  · cases h
  · split at h
    · cases h
      exact ⟨_, _, rfl⟩
    · rename_i parts _
      cases hparts : ofParts 0 parts with
      | error partsFault =>
        rw [hparts] at h
        cases h
        exact isPlain_of_ofParts hparts
      | ok entries =>
        rw [hparts] at h
        cases h

theorem isPlain_of_mapM_ofValue {rows : List Value} (h : rows.mapM ofValue = .error fault) :
    fault.IsPlain := by
  obtain ⟨row, -, hrow⟩ := exists_mem_of_mapM_eq_error h
  exact isPlain_of_ofValue hrow

theorem mapM_ofValue_object (rows : List Entries) :
    (rows.map Value.object).mapM ofValue = .ok rows := by
  induction rows with
  | nil => rfl
  | cons row rows ih =>
    rw [List.map_cons, List.mapM_cons, ih]
    rfl

end Entries

end QueryGate
