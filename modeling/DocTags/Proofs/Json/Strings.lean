/-
# Strings are read back

Every character of a string is written in a form that is read as just this character, so that a
written string is read up to its closing quote and gives the text that was written. The controls
below the space are the only characters in the form of four digits, of which the first two are
zeros.
-/

import DocTags.Json.Reader
import DocTags.Json.Writer
import DocTags.Proofs.Text.Digits
import Mathlib.Tactic.SplitIfs

namespace DocTags.Json

/-! ## Escaped controls -/

theorem utf8Size_digitChar : ∀ digit < 16, (Nat.digitChar digit).utf8Size = 1 := by
  decide

/-- A control below the space is written with two zeros and two digits. -/
theorem controlEscape_eq {c : Char} (small : c.toNat < 0x20) :
    controlEscape c =
      ['\\', 'u', '0', '0', Nat.digitChar (c.toNat / 16), Nat.digitChar (c.toNat % 16)] := by
  have codes : ∀ code < 0x20,
      List.replicate (4 - (Nat.toDigits 16 code).length) '0' ++ Nat.toDigits 16 code =
        ['0', '0', Nat.digitChar (code / 16), Nat.digitChar (code % 16)] := by
    decide
  rw [controlEscape, List.append_assoc, codes _ small]
  rfl

/-- Two zeros and two digits are read as the number that the digits write. -/
theorem fourDigits_digitChar {high low : Nat} (highDigit : high < 16) (lowDigit : low < 16)
    (rest : Text) :
    fourDigits ('0' :: '0' :: Nat.digitChar high :: Nat.digitChar low :: rest) =
      .ok (16 * high + low, rest) := by
  have zeroSize : '0'.utf8Size = 1 := by decide
  have size : Text.utf8Size ['0', '0', Nat.digitChar high, Nat.digitChar low] = 4 := by
    simp [Text.utf8Size, zeroSize, utf8Size_digitChar _ highDigit, utf8Size_digitChar _ lowDigit]
  have zero : Text.digit? '0' = some 0 := by decide
  simp only [fourDigits, List.take_succ_cons, List.take_zero, size, zero,
    Text.digit?_digitChar _ highDigit, Text.digit?_digitChar _ lowDigit]
  simp [Nat.mul_comm]

/-- An escaped control is read as that control. -/
theorem escape_control {c : Char} (small : c.toNat < 0x20) (rest : Text) :
    escape ('u' :: '0' :: '0' :: Nat.digitChar (c.toNat / 16) ::
        Nat.digitChar (c.toNat % 16) :: rest) = .ok (c, rest) := by
  have high : c.toNat / 16 < 16 := by omega
  have low : c.toNat % 16 < 16 := by omega
  have digits := fourDigits_digitChar high low rest
  have code : 16 * (c.toNat / 16) + c.toNat % 16 = c.toNat := by omega
  rw [code] at digits
  have noLow : ¬ (0xDC00 ≤ c.toNat ∧ c.toNat ≤ 0xDFFF) := by omega
  have noHigh : ¬ (0xD800 ≤ c.toNat ∧ c.toNat ≤ 0xDBFF) := by omega
  simp only [escape, digits, bind, Except.bind, if_neg noLow, if_neg noHigh, Char.ofNat_toNat]
  rfl

/-! ## Characters and strings -/

/-- The forms in which a character is written: by a letter that stands for it, as a control, or as
itself. -/
theorem stringChar_cases (c : Char) :
    (∃ letter, letter ≠ 'u' ∧ shortEscape? letter = some c ∧ stringChar c = ['\\', letter]) ∨
      (c.toNat < 0x20 ∧ stringChar c = controlEscape c) ∨
      (c ≠ '"' ∧ c ≠ '\\' ∧ 0x20 ≤ c.toNat ∧ stringChar c = [c]) := by
  unfold stringChar
  split_ifs with quote backslash backspace formFeed line carriage tab small
  · exact .inl ⟨'"', by decide, by rw [quote]; rfl, rfl⟩
  · exact .inl ⟨'\\', by decide, by rw [backslash]; rfl, rfl⟩
  · exact .inl ⟨'b', by decide, by rw [backspace]; rfl, rfl⟩
  · exact .inl ⟨'f', by decide, by rw [formFeed]; rfl, rfl⟩
  · exact .inl ⟨'n', by decide, by rw [line]; rfl, rfl⟩
  · exact .inl ⟨'r', by decide, by rw [carriage]; rfl, rfl⟩
  · exact .inl ⟨'t', by decide, by rw [tab]; rfl, rfl⟩
  · exact .inr (.inl ⟨small, rfl⟩)
  · exact .inr (.inr ⟨quote, backslash, Nat.le_of_not_lt small, rfl⟩)

/-- A written character is read as that character, and then the rest is read. -/
theorem stringChars_stringChar (c : Char) (fuel : Nat) (rest : Text) :
    stringChars escape id (fuel + 1) (stringChar c ++ rest) =
      (stringChars escape id fuel rest).map fun (chars, rest) => (c :: chars, rest) := by
  rcases stringChar_cases c with ⟨letter, short, meant, written⟩ | ⟨small, written⟩ |
    ⟨noQuote, noBackslash, large, written⟩
  · have read : escape (letter :: rest) = .ok (c, rest) := by
      simp [escape, meant]
    rw [written]
    simp only [List.cons_append, List.nil_append, stringChars, read]
    rfl
  · rw [written, controlEscape_eq small]
    simp only [List.cons_append, List.nil_append, stringChars, escape_control small]
    rfl
  · rw [written]
    simp only [List.cons_append, List.nil_append, stringChars, if_neg (Nat.not_lt.mpr large)]
    rfl

/-- A written string is read up to its closing quote. -/
theorem stringChars_flatMap (value rest : Text) {fuel : Nat} (enough : value.length < fuel) :
    stringChars escape id fuel (value.flatMap stringChar ++ '"' :: rest) = .ok (value, rest) := by
  induction value generalizing fuel with
  | nil =>
      obtain ⟨fuel, rfl⟩ := Nat.exists_eq_succ_of_ne_zero (Nat.ne_zero_of_lt enough)
      rfl
  | cons c value ih =>
      obtain ⟨fuel, rfl⟩ := Nat.exists_eq_succ_of_ne_zero (Nat.ne_zero_of_lt enough)
      rw [List.flatMap_cons, List.append_assoc, stringChars_stringChar,
        ih (Nat.lt_of_succ_lt_succ enough)]
      rfl

/-- A character takes at least one character to write. -/
theorem length_stringChar_pos (c : Char) : 0 < (stringChar c).length := by
  rcases stringChar_cases c with ⟨letter, _, _, written⟩ | ⟨small, written⟩ | ⟨_, _, _, written⟩
  · simp [written]
  · simp [written, controlEscape_eq small]
  · simp [written]

theorem length_le_flatMap_stringChar (value : Text) :
    value.length ≤ (value.flatMap stringChar).length := by
  induction value with
  | nil => simp
  | cons c value ih =>
      have first := length_stringChar_pos c
      rw [List.flatMap_cons, List.length_cons, List.length_append]
      omega

/-- A string whose opening quote has been read is read up to its closing quote. -/
theorem stringRest_flatMap (value rest : Text) :
    stringRest (value.flatMap stringChar ++ '"' :: rest) = .ok (value, rest) := by
  apply stringChars_flatMap
  have longer := length_le_flatMap_stringChar value
  rw [List.length_append]
  omega

/-- A written string in front of a text. -/
theorem string_append (value rest : Text) :
    string value ++ rest = '"' :: (value.flatMap stringChar ++ '"' :: rest) := by
  simp [string]

end DocTags.Json
