/-
# Escaped characters are read back

Between double quotes a character is written behind a backslash, by a letter that stands for it or
by the four digits of its code, or it is plain and stands for itself. Since no written character
starts with a quote, the only quotes without a backslash are those that are bare on purpose, and
these never stand in a longer row than is allowed.
-/

import DocTags.Proofs.Text.Digits
import DocTags.Toml.Text
import DocTags.Toml.Writer
import Mathlib.Data.List.Basic
import Mathlib.Tactic.SplitIfs

namespace DocTags.Toml

/-! ## The forms of a character -/

/-- A text behind a backslash means a character, and does not join two lines. -/
structure Escapes (c : Char) (code : Text) : Prop where
  meaning : ∀ rest, escape (code ++ rest) = some (c, rest)
  not_joined : ∀ rest, joinedLine (code ++ rest) = none

/-- The digits that a control is written with. -/
def controlDigits (code : Nat) : Text :=
  let digits := (Nat.toDigits 16 code).map Char.toUpper
  List.replicate (4 - digits.length) '0' ++ digits

theorem controlEscape_eq_cons (c : Char) :
    controlEscape c = '\\' :: 'u' :: controlDigits c.toNat := by
  rw [controlEscape, List.append_assoc]
  rfl

/-- Four digits write the code of a control. -/
theorem numberIn_controlDigits : ∀ code < 0x80,
    (controlDigits code).length = 4 ∧
      ((controlDigits code).all fun c => (Text.digit? c).isSome) = true ∧
      Text.numberIn 16 (controlDigits code) = code := by
  decide

/-- Four digits are read as the character with the code that they write. -/
theorem codePoint_append {digits : Text} (four : digits.length = 4)
    (all : (digits.all fun c => (Text.digit? c).isSome) = true) {c : Char}
    (code : Text.numberIn 16 digits = c.toNat) (rest : Text) :
    codePoint 4 (digits ++ rest) = some (c, rest) := by
  have front : (digits ++ rest).take 4 = digits := List.take_left' four
  have back : (digits ++ rest).drop 4 = rest := List.drop_left' four
  have valid : c.toNat.isValidChar := c.valid
  simp only [codePoint, front, back]
  rw [if_pos ⟨four, all⟩, code, if_pos valid, Char.ofNat_toNat]

/-- A control is read from its code. -/
theorem escapes_control {c : Char} (control : needsEscape c = true) :
    Escapes c ('u' :: controlDigits c.toNat) := by
  have small : c.toNat < 0x80 := by
    simp only [needsEscape, Bool.or_eq_true, Bool.and_eq_true, decide_eq_true_eq, beq_iff_eq]
      at control
    omega
  obtain ⟨four, all, code⟩ := numberIn_controlDigits c.toNat small
  constructor
  · exact codePoint_append four all code
  · exact fun rest => rfl

/-- A character that needs no escape is plain, the newline apart. -/
theorem isPlain_of_not_needsEscape {c : Char} (free : needsEscape c = false) (noLine : c ≠ '\n') :
    isPlain c = true := by
  by_cases tab : c = '\t'
  · rw [tab]
    rfl
  · simp only [needsEscape, Bool.or_eq_false_iff, Bool.and_eq_false_iff, bne_eq_false_iff_eq,
      beq_eq_false_iff_ne, decide_eq_false_iff_not, tab, noLine, or_false] at free
    simp only [isPlain, Bool.or_eq_true, Bool.and_eq_true, decide_eq_true_eq, bne_iff_ne]
    right
    exact ⟨Nat.le_of_not_lt free.1, free.2⟩

/-- The forms in which a character is written between double quotes: escaped, or as itself, when it
is plain or is a newline that is kept. -/
theorem escapedChar_cases (keepNewlines : Bool) (c : Char) :
    (∃ code, Escapes c code ∧ escapedChar keepNewlines c = '\\' :: code) ∨
      (c ≠ '"' ∧ c ≠ '\\' ∧ (isPlain c = true ∨ c = '\n' ∧ keepNewlines = true) ∧
        escapedChar keepNewlines c = [c]) := by
  unfold escapedChar
  split_ifs with quote backspace tab line formFeed carriage backslash control
  · exact .inl ⟨['"'], ⟨fun _ => by rw [quote]; rfl, fun _ => rfl⟩, rfl⟩
  · exact .inl ⟨['b'], ⟨fun _ => by rw [backspace]; rfl, fun _ => rfl⟩, rfl⟩
  · exact .inl ⟨['t'], ⟨fun _ => by rw [tab]; rfl, fun _ => rfl⟩, rfl⟩
  · exact .inl ⟨['n'], ⟨fun _ => by rw [line.1]; rfl, fun _ => rfl⟩, rfl⟩
  · exact .inl ⟨['f'], ⟨fun _ => by rw [formFeed]; rfl, fun _ => rfl⟩, rfl⟩
  · exact .inl ⟨['r'], ⟨fun _ => by rw [carriage]; rfl, fun _ => rfl⟩, rfl⟩
  · exact .inl ⟨['\\'], ⟨fun _ => by rw [backslash]; rfl, fun _ => rfl⟩, rfl⟩
  · exact .inl ⟨_, escapes_control control, controlEscape_eq_cons c⟩
  · refine .inr ⟨quote, backslash, ?_, rfl⟩
    by_cases newline : c = '\n'
    · right
      simpa [newline] using line
    · left
      exact isPlain_of_not_needsEscape (by simpa using control) newline

/-- No escaped character starts with a quote. -/
theorem exists_escapedChar (keepNewlines : Bool) (c : Char) :
    ∃ first code, escapedChar keepNewlines c = first :: code ∧ first ≠ '"' := by
  rcases escapedChar_cases keepNewlines c with ⟨code, -, written⟩ | ⟨noQuote, -, -, written⟩
  · exact ⟨'\\', code, written, by decide⟩
  · exact ⟨c, [], written, noQuote⟩

/-! ## Whole texts -/

/-- Every character takes at least one character to write. -/
theorem length_le_escapedFrom (quotes : Nat) (keepNewlines : Bool) (run : Nat) (text : Text) :
    text.length ≤ (escapedFrom quotes keepNewlines run text).length := by
  induction text generalizing run with
  | nil => exact Nat.zero_le _
  | cons c text ih =>
      rw [escapedFrom]
      by_cases bare : c = '"' ∧ run < quotes
      · rw [if_pos bare]
        exact Nat.succ_le_succ (ih _)
      · obtain ⟨first, code, written, -⟩ := exists_escapedChar keepNewlines c
        rw [if_neg bare, written, List.length_append, List.length_cons, List.length_cons]
        have later := ih 0
        omega

/-- A run of bare quotes is interrupted before it grows too long. -/
theorem add_le_of_quotes_prefix {quotes run length : Nat} {keepNewlines : Bool} {text : Text}
    (counted : run ≤ quotes)
    (starts : List.replicate length '"' <+: escapedFrom quotes keepNewlines run text) :
    run + length ≤ quotes := by
  induction text generalizing run length with
  | nil =>
      rw [escapedFrom, List.prefix_nil, List.replicate_eq_nil_iff] at starts
      omega
  | cons c text ih =>
      cases length with
      | zero => exact counted
      | succ length =>
          rw [List.replicate_succ, escapedFrom] at starts
          by_cases bare : c = '"' ∧ run < quotes
          · rw [if_pos bare, List.cons_prefix_cons] at starts
            have later := ih bare.2 starts.2
            omega
          · obtain ⟨first, code, written, noQuote⟩ := exists_escapedChar keepNewlines c
            rw [if_neg bare, written, List.cons_append, List.cons_prefix_cons] at starts
            exact absurd starts.1.symm noQuote

/-- Only the empty text is written without characters. -/
theorem eq_nil_of_escapedFrom {quotes run : Nat} {keepNewlines : Bool} {text : Text}
    (written : escapedFrom quotes keepNewlines run text = []) : text = [] := by
  have longer := length_le_escapedFrom quotes keepNewlines run text
  rw [written] at longer
  exact List.eq_nil_of_length_eq_zero (Nat.le_zero.mp longer)

/-- Only a quote is written as a bare quote. -/
theorem eq_quote_of_escapedFrom {quotes run : Nat} {keepNewlines : Bool} {text : Text}
    (written : escapedFrom quotes keepNewlines run text = ['"']) : text = ['"'] := by
  cases text with
  | nil => cases written
  | cons c text =>
      rw [escapedFrom] at written
      by_cases bare : c = '"' ∧ run < quotes
      · rw [if_pos bare, List.cons.injEq] at written
        rw [bare.1, eq_nil_of_escapedFrom written.2]
      · obtain ⟨first, code, form, noQuote⟩ := exists_escapedChar keepNewlines c
        rw [if_neg bare, form, List.cons_append, List.cons.injEq] at written
        exact absurd written.1 noQuote

end DocTags.Toml
