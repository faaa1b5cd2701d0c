/-
# The order of texts is the order of their bytes

A character is written in UTF-8 as a lead byte and the bytes that follow it. The lead byte tells how
many these are, and is greater for more of them; it holds the highest bits of the code point, and
every byte behind it the six next ones. So the first difference of two characters in their bytes is
decided by their code points, and the order of texts by code points is that of their bytes.
-/

import DocTags.Proofs.Order
import DocTags.Text.Basic
import Mathlib.Algebra.Group.Nat.Defs
import Mathlib.Tactic.SplitIfs

namespace DocTags.Text

/-- The bytes of a text. -/
def bytes (text : Text) : List UInt8 :=
  text.flatMap String.utf8EncodeChar

/-! ## The bytes of a character -/

/-- The given number of bytes with the lowest bits of a code point, six in each. -/
def followers : Nat → Nat → List UInt8
  | 0, _ => []
  | count + 1, code => UInt8.ofNat (code / 64 ^ count % 64 + 128) :: followers count code

/-- How many bytes follow the lead byte of a code point. -/
def followerCount (code : Nat) : Nat :=
  if code ≤ 0x7f then 0 else if code ≤ 0x7ff then 1 else if code ≤ 0xffff then 2 else 3

/-- The marks of lead bytes, by the number of the bytes that follow. -/
def leadMark : Nat → Nat
  | 0 => 0
  | 1 => 0xc0
  | 2 => 0xe0
  | _ => 0xf0

/-- The lead byte of a code point. -/
def leadByte (code : Nat) : Nat :=
  code / 64 ^ followerCount code + leadMark (followerCount code)

theorem toNat_lt (c : Char) : c.toNat < 0x110000 := by
  have valid : c.toNat.isValidChar := c.valid
  simp only [Nat.isValidChar] at valid
  omega

theorem utf8EncodeChar_eq (c : Char) :
    String.utf8EncodeChar c =
      UInt8.ofNat (leadByte c.toNat) :: followers (followerCount c.toNat) c.toNat := by
  have bound := toNat_lt c
  have val : c.val.toNat = c.toNat := rfl
  simp only [String.utf8EncodeChar, leadByte, followerCount, val]
  generalize c.toNat = code at bound
  split_ifs with one two three
  · simp [followers, leadMark]
  · have small : code / 64 % 32 = code / 64 := by omega
    simp [followers, leadMark, small]
  · have small : code / 4096 % 16 = code / 4096 := by omega
    simp [followers, leadMark, small]
  · have small : code / 262144 % 8 = code / 262144 := by omega
    simp [followers, leadMark, small]

/-- A lower byte decides. -/
theorem ofNat_cons_lt {m n : Nat} (lower : m < n) (bound : n < 256) (s t : List UInt8) :
    UInt8.ofNat m :: s < UInt8.ofNat n :: t := by
  apply List.cons_lt_cons_iff.mpr
  exact Or.inl ((UInt8.ofNat_lt_iff_lt (Nat.lt_trans lower bound) bound).mpr lower)

/-- Of as many bytes those with the lower bits come first. -/
theorem followers_append_lt {count m n : Nat} (lower : m % 64 ^ count < n % 64 ^ count)
    (s t : List UInt8) : followers count m ++ s < followers count n ++ t := by
  induction count with
  | zero => simp [Nat.mod_one] at lower
  | succ count ih =>
      rw [Nat.pow_succ, Nat.mod_mul, Nat.mod_mul] at lower
      rw [followers, followers, List.cons_append, List.cons_append]
      rcases Nat.lt_trichotomy (m / 64 ^ count % 64) (n / 64 ^ count % 64) with less | same | more
      · exact ofNat_cons_lt (by omega) (by omega) _ _
      · rw [same] at lower ⊢
        apply List.cons_lt_cons_iff.mpr
        exact Or.inr ⟨rfl, ih (by omega)⟩
      · have full := Nat.mod_lt m (Nat.pow_pos (n := count) (by decide : 0 < 64))
        have steps : 64 ^ count * (n / 64 ^ count % 64) + 64 ^ count ≤
            64 ^ count * (m / 64 ^ count % 64) := by
          rw [← Nat.mul_succ]
          exact Nat.mul_le_mul_left _ more
        omega

/-- A lower code point has a lower lead byte, or the same one and lower bits behind it. -/
theorem leadByte_lt_or {m n : Nat} (lower : m < n) (bound : n < 0x110000) :
    leadByte m < leadByte n ∨ leadByte m = leadByte n ∧ followerCount m = followerCount n ∧
      m % 64 ^ followerCount m < n % 64 ^ followerCount m := by
  simp only [leadByte, followerCount]
  split_ifs <;> simp only [leadMark, true_and] <;> omega

theorem leadByte_lt {code : Nat} (bound : code < 0x110000) : leadByte code < 256 := by
  simp only [leadByte, followerCount]
  split_ifs <;> simp only [leadMark] <;> omega

/-- The bytes of a lower character come first, whatever follows. -/
theorem utf8EncodeChar_append_lt {a b : Char} (lower : a.toNat < b.toNat) (s t : List UInt8) :
    String.utf8EncodeChar a ++ s < String.utf8EncodeChar b ++ t := by
  rw [utf8EncodeChar_eq, utf8EncodeChar_eq, List.cons_append, List.cons_append]
  obtain less | ⟨same, counts, bits⟩ := leadByte_lt_or lower (toNat_lt b)
  · exact ofNat_cons_lt less (leadByte_lt (toNat_lt b)) _ _
  · rw [same, ← counts]
    apply List.cons_lt_cons_iff.mpr
    exact Or.inr ⟨rfl, followers_append_lt bits s t⟩

/-! ## Texts -/

/-- The order of code points is linear. -/
theorem isLinear_toNat : IsLinear fun a b : Char => decide (a.toNat ≤ b.toNat) where
  total a b := by
    simp only [Bool.or_eq_true, decide_eq_true_eq]
    exact Nat.le_total _ _
  trans a b c := by
    simp only [decide_eq_true_eq]
    exact Nat.le_trans
  antisymm a b := by
    simp only [decide_eq_true_eq]
    intro first second
    exact Char.toNat_inj.mp (Nat.le_antisymm first second)

/-- The order of texts is linear. -/
theorem isLinear_le : IsLinear le :=
  isLinear_toNat.lexicographic

/-- A text that comes before another one comes before it in bytes. -/
theorem bytes_lt_of_le {first second : Text} (lower : le first second = true)
    (differs : first ≠ second) : bytes first < bytes second := by
  induction first generalizing second with
  | nil =>
      obtain ⟨c, rest, rfl⟩ := List.exists_cons_of_ne_nil (Ne.symm differs)
      rw [bytes, bytes, List.flatMap_cons, utf8EncodeChar_eq]
      exact List.nil_lt_cons _ _
  | cons a first ih =>
      cases second with
      | nil => cases lower
      | cons b second =>
          rw [bytes, bytes, List.flatMap_cons, List.flatMap_cons]
          by_cases same : a = b
          · subst same
            have later : le first second = true := by
              simpa [le, lexicographicLe] using lower
            have rest : first ≠ second := fun equal => differs (by rw [equal])
            exact List.append_left_lt (ih later rest)
          · have codes : a.toNat ≤ b.toNat := by
              simpa [le, lexicographicLe, same] using lower
            have unequal : a.toNat ≠ b.toNat := fun equal => same (Char.toNat_inj.mp equal)
            exact utf8EncodeChar_append_lt (Nat.lt_of_le_of_ne codes unequal) _ _

end DocTags.Text
