/-
# Quoted texts are told apart

Every character of a quoted text is written in a form that says where it ends and which character
it is: by a letter that stands for it, by its code point in braces, or as itself. So different texts
are quoted differently, and whatever the text is, its quoted form stands on one line and ends with
a quote.
-/

import DocTags.Proofs.Text.Digits
import DocTags.Text.Quoted
import Mathlib.Tactic.SplitIfs

namespace DocTags.Text

/-! ## The forms of a character -/

/-- The character that a letter behind a backslash stands for. -/
def escaped? : Char → Option Char
  | '0' => some '\x00'
  | 't' => some '\t'
  | 'r' => some '\r'
  | 'n' => some '\n'
  | '"' => some '"'
  | '\\' => some '\\'
  | _ => none

/-- The forms in which a character is quoted: by a letter that stands for it, by its code point, or
as itself. -/
theorem quotedChar_cases (c : Char) :
    (∃ letter, escaped? letter = some c ∧ quotedChar c = ['\\', letter]) ∨
      quotedChar c = byCodePoint c ∨ (c ≠ '\\' ∧ c ≠ '\n' ∧ quotedChar c = [c]) := by
  unfold quotedChar
  split_ifs with null tab carriage line quote backslash extending visible
  · exact .inl ⟨'0', by rw [null]; rfl, rfl⟩
  · exact .inl ⟨'t', by rw [tab]; rfl, rfl⟩
  · exact .inl ⟨'r', by rw [carriage]; rfl, rfl⟩
  · exact .inl ⟨'n', by rw [line]; rfl, rfl⟩
  · exact .inl ⟨'"', by rw [quote]; rfl, rfl⟩
  · exact .inl ⟨'\\', by rw [backslash]; rfl, rfl⟩
  · exact .inr (.inl rfl)
  · exact .inr (.inr ⟨backslash, line, rfl⟩)
  · exact .inr (.inl rfl)

/-- A character that is no digit stands in no number. -/
theorem not_mem_hex {c : Char} (noDigit : ∀ digit < 16, c ≠ Nat.digitChar digit) (n : Nat) :
    c ∉ hex n :=
  not_mem_toDigits (by decide) noDigit n

/-! ## The first character read back -/

/-- The character whose quoted form a text starts with, and what follows it. -/
def unquotedChar? : Text → Option (Char × Text)
  | [] => none
  | '\\' :: 'u' :: '\x7b' :: rest =>
    some (Char.ofNat (numberIn 16 (rest.takeWhile (· ≠ '\x7d'))),
      (rest.dropWhile (· ≠ '\x7d')).tail)
  | '\\' :: letter :: rest => (escaped? letter).map (·, rest)
  | c :: rest => some (c, rest)

/-- A character written by its code point is read back, whatever follows. -/
theorem unquotedChar?_byCodePoint (c : Char) (rest : Text) :
    unquotedChar? (byCodePoint c ++ rest) = some (c, rest) := by
  have inside : ∀ d ∈ hex c.toNat, decide (d ≠ '\x7d') = true := by
    intro d member
    apply decide_eq_true
    rintro rfl
    exact not_mem_hex (by decide) c.toNat member
  have whole : byCodePoint c ++ rest =
      '\\' :: 'u' :: '\x7b' :: (hex c.toNat ++ '\x7d' :: rest) := by
    simp [byCodePoint]
  rw [whole, unquotedChar?, List.takeWhile_append_of_pos inside,
    List.dropWhile_append_of_pos inside]
  have code : numberIn 16 (hex c.toNat) = c.toNat := numberIn_toDigits (by decide) (by decide) _
  simp [code]

/-- A quoted character is read back, whatever follows. -/
theorem unquotedChar?_quotedChar (c : Char) (rest : Text) :
    unquotedChar? (quotedChar c ++ rest) = some (c, rest) := by
  rcases quotedChar_cases c with ⟨letter, meant, written⟩ | written | ⟨noBackslash, -, written⟩
  · have noCode : letter ≠ 'u' := by
      rintro rfl
      cases meant
    rw [written, List.cons_append, List.cons_append, List.nil_append, unquotedChar?, meant]
    · rfl
    · intro after letterSame
      exact absurd letterSame noCode
  · rw [written]
    exact unquotedChar?_byCodePoint c rest
  · rw [written, List.cons_append, List.nil_append, unquotedChar?]
    · intro after same
      exact absurd same noBackslash
    · intro letter after same
      exact absurd same noBackslash

/-! ## Whole texts -/

theorem flatMap_quotedChar_injective : Function.Injective fun text : Text =>
    text.flatMap quotedChar := by
  intro text other same
  dsimp only at same
  induction text generalizing other with
  | nil =>
      cases other with
      | nil => rfl
      | cons d other =>
          have read := unquotedChar?_quotedChar d (other.flatMap quotedChar)
          rw [← List.flatMap_cons, ← same] at read
          cases read
  | cons c text ih =>
      have read := unquotedChar?_quotedChar c (text.flatMap quotedChar)
      rw [← List.flatMap_cons, same] at read
      cases other with
      | nil => cases read
      | cons d other =>
          rw [List.flatMap_cons, unquotedChar?_quotedChar] at read
          obtain ⟨rfl, rest⟩ := Prod.mk.inj (Option.some.inj read)
          rw [ih rest.symm]

/-- **Quoting.** Different texts are quoted differently. -/
theorem quoted_injective : Function.Injective quoted := by
  intro text other same
  apply flatMap_quotedChar_injective
  simpa [quoted] using same

/-- A quoted text stands on one line. -/
theorem newline_not_mem_quoted (text : Text) : '\n' ∉ quoted text := by
  have plain : ∀ c, '\n' ∉ quotedChar c := by
    intro c
    rcases quotedChar_cases c with ⟨letter, meant, written⟩ | written | ⟨-, noLine, written⟩
    · have noLine : letter ≠ '\n' := by
        rintro rfl
        cases meant
      simpa [written] using Ne.symm noLine
    · have noDigit : '\n' ∉ hex c.toNat := not_mem_hex (by decide) c.toNat
      simp [written, byCodePoint, noDigit]
    · simpa [written] using Ne.symm noLine
  simp [quoted, plain]

/-- A quoted text ends with a quote. -/
theorem getLast?_quoted (text : Text) : (quoted text).getLast? = some '"' := by
  rw [quoted, List.getLast?_append]
  rfl

end DocTags.Text
