/-
# Digits are read back

Every digit of a number stands for a number below the base, and the digits together write the
number that they were taken from. Both hold for the bases up to sixteen, whose digits are those
that are read.
-/

import DocTags.Text.Digits

namespace DocTags.Text

variable {base : Nat}

theorem digit?_digitChar : ∀ digit < 16, digit? (Nat.digitChar digit) = some digit := by
  decide

/-- What stands among the digits of a number stands for a number below the base. -/
theorem exists_of_mem_toDigits (large : 1 < base) {n : Nat} {c : Char}
    (member : c ∈ Nat.toDigits base n) : ∃ digit < base, c = Nat.digitChar digit := by
  induction n using Nat.strongRecOn with
  | ind n ih =>
      rw [Nat.toDigits_eq_if large] at member
      by_cases small : n < base
      · rw [if_pos small, List.mem_singleton] at member
        exact ⟨n, small, member⟩
      · rw [if_neg small, List.mem_append, List.mem_singleton] at member
        rcases member with front | last
        · exact ih (n / base) (Nat.div_lt_self (by omega) large) front
        · exact ⟨n % base, Nat.mod_lt n (by omega), last⟩

/-- A character that is no digit stands in no number. -/
theorem not_mem_toDigits (large : 1 < base) {c : Char}
    (noDigit : ∀ digit < base, c ≠ Nat.digitChar digit) (n : Nat) : c ∉ Nat.toDigits base n := by
  intro member
  obtain ⟨digit, small, same⟩ := exists_of_mem_toDigits large member
  exact noDigit digit small same

/-- A last digit is added to the base times what stands before it. -/
theorem numberIn_append_digitChar {digit : Nat} (small : digit < 16) (front : Text) :
    numberIn base (front ++ [Nat.digitChar digit]) = base * numberIn base front + digit := by
  rw [numberIn, List.foldl_append, List.foldl_cons, List.foldl_nil, digit?_digitChar digit small,
    Option.getD_some, numberIn]

/-- **Digits.** The digits of a number write that number. -/
theorem numberIn_toDigits (large : 1 < base) (least : base ≤ 16) (n : Nat) :
    numberIn base (Nat.toDigits base n) = n := by
  induction n using Nat.strongRecOn with
  | ind n ih =>
      rw [Nat.toDigits_eq_if large]
      by_cases small : n < base
      · have single : numberIn base ([] ++ [Nat.digitChar n]) = base * numberIn base [] + n :=
          numberIn_append_digitChar (Nat.lt_of_lt_of_le small least) []
        rw [if_pos small]
        simpa [numberIn] using single
      · have lastSmall : n % base < 16 := Nat.lt_of_lt_of_le (Nat.mod_lt n (by omega)) least
        rw [if_neg small, numberIn_append_digitChar lastSmall,
          ih (n / base) (Nat.div_lt_self (by omega) large), Nat.div_add_mod]

end DocTags.Text
