/-
# Computations in steps

A computation that may fail gives a value just if each of its steps does. A fault that is put in
other words is still a fault.
-/

namespace DocTags

variable {ε φ α β : Type}

theorem pure_eq_ok (value : α) : (pure value : Except ε α) = .ok value := rfl

@[simp]
theorem ok_bind (value : α) (next : α → Except ε β) : Except.ok value >>= next = next value := rfl

@[simp]
theorem error_bind (fault : ε) (next : α → Except ε β) :
    Except.error fault >>= next = .error fault := rfl

@[simp]
theorem mapError_ok (value : α) (words : ε → φ) :
    (Except.ok value : Except ε α).mapError words = .ok value := rfl

@[simp]
theorem mapError_error (fault : ε) (words : ε → φ) :
    (Except.error fault : Except ε α).mapError words = .error (words fault) := rfl

/-- Two steps give a value if the first gives one with which the second does. -/
theorem bind_eq_ok_iff {first : Except ε α} {next : α → Except ε β} {value : β} :
    first >>= next = .ok value ↔ ∃ between, first = .ok between ∧ next between = .ok value := by
  cases first with
  | error fault => simp
  | ok between => simp

/-- They fail if the first fails, or if the second does with what the first gives. -/
theorem bind_eq_error_iff {first : Except ε α} {next : α → Except ε β} {fault : ε} :
    first >>= next = .error fault ↔
      first = .error fault ∨ ∃ between, first = .ok between ∧ next between = .error fault := by
  cases first with
  | error fault => simp
  | ok between => simp

/-- A fault in other words comes from a fault. -/
theorem mapError_eq_error_iff {result : Except ε α} {words : ε → φ} {fault : φ} :
    result.mapError words = .error fault ↔ ∃ cause, result = .error cause ∧ words cause = fault := by
  cases result with
  | error fault => simp
  | ok value => simp

end DocTags
