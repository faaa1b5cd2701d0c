/-
# What numerals are made of

The text of a whole number is a numeral of a double-precision number as well, and a numeral of
either kind holds no comma: neither a sign, nor a digit, nor a point, nor a letter is one.
-/

import DocTags.Decimal.Numeral
import Mathlib.Data.List.TakeWhile

namespace DocTags

/-- A text with a comma is no spelling of a text without one. -/
theorem Text.not_equalIgnoringCase_of_comma {text word : Text} (comma : ',' ∈ text)
    (absent : ',' ∉ word.map Char.toLower) : ¬ equalIgnoringCase text word = true := by
  intro same
  apply absent
  rw [← beq_iff_eq.mp same]
  exact List.mem_map.mpr ⟨',', comma, rfl⟩

/-- What is not a digit stands behind the digits that a text starts with. -/
theorem Text.mem_digits_rest {c : Char} {text : Text} (other : c.isDigit = false)
    (member : c ∈ text) : c ∈ (digits text).2 := by
  rw [← List.takeWhile_append_dropWhile (p := Char.isDigit) (l := text), List.mem_append] at member
  refine member.resolve_left fun inside => ?_
  have digit : c.isDigit = true := List.mem_takeWhile_imp inside
  rw [other] at digit
  exact Bool.noConfusion digit

/-- Digits stand before nothing else. -/
theorem Text.digits_of_all {text : Text} (all : ∀ c ∈ text, c.isDigit = true) :
    digits text = (text, []) := by
  rw [digits, List.takeWhile_eq_self_iff.mpr all, List.dropWhile_eq_nil_iff.mpr all]

namespace Numeral

variable {c : Char} {text : Text}

theorem mem_sign_rest (notMinus : c ≠ '-') (notPlus : c ≠ '+') (member : c ∈ text) :
    c ∈ (sign text).2 := by
  unfold sign
  split
  · exact (List.mem_cons.mp member).resolve_left notMinus
  · exact (List.mem_cons.mp member).resolve_left notPlus
  · exact member

theorem mem_fraction_rest (other : c.isDigit = false) (notPoint : c ≠ '.') (member : c ∈ text) :
    c ∈ (fraction text).2 := by
  unfold fraction
  split
  · exact Text.mem_digits_rest other ((List.mem_cons.mp member).resolve_left notPoint)
  · exact member

theorem exponent?_of_comma (comma : ',' ∈ text) : exponent? text = none := by
  cases text with
  | nil => exact absurd comma List.not_mem_nil
  | cons c rest =>
      by_cases letter : c = 'e' ∨ c = 'E'
      · have behind : ',' ∈ rest := by
          refine (List.mem_cons.mp comma).resolve_left fun same => ?_
          rw [← same] at letter
          exact absurd letter (by decide)
        have wrong : (sign rest).2.any (!·.isDigit) = true :=
          List.any_eq_true.mpr ⟨',', mem_sign_rest (by decide) (by decide) behind, by decide⟩
        rw [exponent?, if_pos letter]
        exact if_pos (Or.inr wrong)
      · rw [exponent?, if_neg letter]

/-- No numeral holds a comma. -/
theorem binary64?_of_comma (comma : ',' ∈ text) : binary64? text = none := by
  have magnitude : ',' ∈ (sign text).2 := mem_sign_rest (by decide) (by decide) comma
  have notInfinite : ¬ (Text.equalIgnoringCase (sign text).2 ['i', 'n', 'f'] ∨
      Text.equalIgnoringCase (sign text).2 ['i', 'n', 'f', 'i', 'n', 'i', 't', 'y']) := by
    rintro (same | same)
    · exact Text.not_equalIgnoringCase_of_comma magnitude (by decide) same
    · exact Text.not_equalIgnoringCase_of_comma magnitude (by decide) same
  have notNan : ¬ Text.equalIgnoringCase (sign text).2 ['n', 'a', 'n'] :=
    Text.not_equalIgnoringCase_of_comma magnitude (by decide)
  have behind : ',' ∈ (fraction (Text.digits (sign text).2).2).2 :=
    mem_fraction_rest (by decide) (by decide) (Text.mem_digits_rest (by decide) magnitude)
  rw [binary64?]
  simp only [if_neg notInfinite, if_neg notNan, exponent?_of_comma behind, Option.map_none,
    ite_self]

/-- A whole number is written in digits behind its sign. -/
theorem digits_of_integer? (whole : (integer? text).isSome) :
    (sign text).2 ≠ [] ∧ ∀ c ∈ (sign text).2, c.isDigit = true := by
  have written : ¬ ((sign text).2 = [] ∨ (sign text).2.any (!·.isDigit) = true) := by
    intro wrong
    simp only [integer?, if_pos wrong] at whole
    exact Bool.noConfusion whole
  simpa [not_or] using written

/-- The text of a whole number is a numeral. -/
theorem isSome_binary64?_of_integer? (whole : (integer? text).isSome) :
    (binary64? text).isSome := by
  obtain ⟨some, all⟩ := digits_of_integer? whole
  simp only [binary64?, Text.digits_of_all all, fraction, exponent?, some, false_and, if_false,
    Option.map_some]
  split
  · rfl
  · split <;> rfl

end Numeral

end DocTags
