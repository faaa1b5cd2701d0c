/-
# Laws of lexicographic order

The lexicographic order of lists is linear when the order of their items is: of two lists one comes
before the other, unless they are equal, and coming before is transitive.
-/

import DocTags.Order

namespace DocTags

variable {α : Type} {le : α → α → Bool}

/-- The laws of a linear order that is given by a test. -/
structure IsLinear (le : α → α → Bool) : Prop where
  total : ∀ a b, (le a b || le b a) = true
  trans : ∀ a b c, le a b = true → le b c = true → le a c = true
  antisymm : ∀ a b, le a b = true → le b a = true → a = b

theorem isLinear_natBle : IsLinear Nat.ble where
  total a b := by
    rw [Bool.or_eq_true, Nat.ble_eq, Nat.ble_eq]
    exact Nat.le_total a b
  trans a b c := by
    simp only [Nat.ble_eq]
    exact Nat.le_trans
  antisymm a b := by
    simp only [Nat.ble_eq]
    exact Nat.le_antisymm

variable [DecidableEq α]

theorem lexicographicLe_total (linear : IsLinear le) (s t : List α) :
    (lexicographicLe le s t || lexicographicLe le t s) = true := by
  induction s generalizing t with
  | nil => rfl
  | cons a s ih =>
      cases t with
      | nil => rfl
      | cons b t =>
          by_cases same : a = b
          · subst same
            simpa [lexicographicLe] using ih t
          · simpa [lexicographicLe, same, Ne.symm same] using linear.total a b

theorem lexicographicLe_antisymm (linear : IsLinear le) (s t : List α)
    (first : lexicographicLe le s t = true) (second : lexicographicLe le t s = true) : s = t := by
  induction s generalizing t with
  | nil =>
      cases t with
      | nil => rfl
      | cons b t => cases second
  | cons a s ih =>
      cases t with
      | nil => cases first
      | cons b t =>
          by_cases same : a = b
          · subst same
            simp only [lexicographicLe, if_true] at first second
            rw [ih t first second]
          · simp only [lexicographicLe, if_neg same, if_neg (Ne.symm same)] at first second
            exact absurd (linear.antisymm a b first second) same

theorem lexicographicLe_trans (linear : IsLinear le) (s t u : List α)
    (first : lexicographicLe le s t = true) (second : lexicographicLe le t u = true) :
    lexicographicLe le s u = true := by
  induction s generalizing t u with
  | nil => rfl
  | cons a s ih =>
      cases t with
      | nil => cases first
      | cons b t =>
          cases u with
          | nil => cases second
          | cons c u =>
              simp only [lexicographicLe] at first second ⊢
              by_cases ab : a = b
              · subst ab
                by_cases ac : a = c
                · subst ac
                  simp only [if_true] at first second ⊢
                  exact ih t u first second
                · simpa only [if_neg ac] using second
              · rw [if_neg ab] at first
                by_cases bc : b = c
                · subst bc
                  rwa [if_neg ab]
                · rw [if_neg bc] at second
                  by_cases ac : a = c
                  · subst ac
                    exact absurd (linear.antisymm a b first second) ab
                  · rw [if_neg ac]
                    exact linear.trans a b c first second

/-- Lexicographic order is linear when the order of the items is. -/
theorem IsLinear.lexicographic (linear : IsLinear le) : IsLinear (lexicographicLe le) :=
  ⟨lexicographicLe_total linear, lexicographicLe_trans linear, lexicographicLe_antisymm linear⟩

end DocTags
