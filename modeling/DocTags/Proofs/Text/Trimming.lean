/-
# Laws of trimming

Trimming a class of characters at the two ends of a text leaves the middle of the text that
neither starts nor ends with such a character. There is one such middle, so that a text is trimmed
by showing it cut in this way.
-/

import DocTags.Text.Basic
import Mathlib.Data.List.DropRight

namespace DocTags.Text

variable {p : Char → Bool} {text core : Text}

/-- A text neither starts nor ends with a character of a class. -/
structure Trimmed (p : Char → Bool) (text : Text) : Prop where
  head : ∀ c, text.head? = some c → p c = false
  last : ∀ c, text.getLast? = some c → p c = false

/-- What is trimmed at the end stands behind what is left. -/
theorem exists_append_trimEnd (p : Char → Bool) (text : Text) :
    ∃ after, text = trimEnd p text ++ after ∧ ∀ c ∈ after, p c :=
  ⟨text.rtakeWhile p, List.rdropWhile_append_rtakeWhile.symm,
    fun _ member => List.mem_rtakeWhile_imp member⟩

/-- What is trimmed at the start stands before what is left. -/
theorem exists_append_dropWhile (p : Char → Bool) (text : Text) :
    ∃ before, text = before ++ text.dropWhile p ∧ ∀ c ∈ before, p c :=
  ⟨text.takeWhile p, List.takeWhile_append_dropWhile.symm, fun _ member =>
    List.mem_takeWhile_imp member⟩

/-- Characters of the class at the end do not matter. -/
theorem trimEnd_append {after : Text} (only : ∀ c ∈ after, p c) (text : Text) :
    trimEnd p (text ++ after) = trimEnd p text := by
  rw [trimEnd, trimEnd, List.reverse_append, List.dropWhile_append_of_pos]
  intro c member
  exact only c (List.mem_reverse.mp member)

/-- A text that does not end with a character of the class is left as it is. -/
theorem trimEnd_eq_self (last : ∀ c, text.getLast? = some c → p c = false) :
    trimEnd p text = text := by
  apply List.rdropWhile_eq_self_iff.mpr
  intro nonempty
  rw [last _ (List.getLast?_eq_some_getLast nonempty)]
  exact Bool.false_ne_true

theorem last_trimEnd (c : Char) (last : (trimEnd p text).getLast? = some c) : p c = false := by
  cases cut : trimEnd p text with
  | nil => simp [cut] at last
  | cons first rest =>
      have nonempty : text.rdropWhile p ≠ [] := by
        intro empty
        exact absurd (cut.symm.trans empty) (List.cons_ne_nil first rest)
      have kept := List.rdropWhile_last_not p text nonempty
      have same : (text.rdropWhile p).getLast nonempty = c := by
        apply Option.some.inj
        rw [← List.getLast?_eq_some_getLast nonempty]
        exact last
      rw [← same]
      exact Bool.eq_false_iff.mpr kept

/-- What stands before the last character outside of the class is kept. -/
theorem trimEnd_append_left {front : Text} (last : ∀ c, front.getLast? = some c → p c = false)
    (back : Text) : trimEnd p (front ++ back) = front ++ trimEnd p back := by
  obtain ⟨after, whole, only⟩ := exists_append_trimEnd p back
  have kept : ∀ c, (front ++ trimEnd p back).getLast? = some c → p c = false := by
    intro c atEnd
    rw [List.getLast?_append] at atEnd
    cases behind : (trimEnd p back).getLast? with
    | none =>
        rw [behind] at atEnd
        exact last c atEnd
    | some d =>
        rw [behind] at atEnd
        exact last_trimEnd c (behind.trans atEnd)
  calc
    trimEnd p (front ++ back) = trimEnd p (front ++ trimEnd p back ++ after) := by
      rw [List.append_assoc, ← whole]
    _ = trimEnd p (front ++ trimEnd p back) := trimEnd_append only _
    _ = front ++ trimEnd p back := trimEnd_eq_self kept

theorem head_dropWhile (c : Char) (head : (text.dropWhile p).head? = some c) : p c = false := by
  have kept := List.head?_dropWhile_not p text
  rw [head] at kept
  simpa using kept

/-- What is left has no character of the class at its ends. -/
theorem trimmed_trim (p : Char → Bool) (text : Text) : Trimmed p (trim p text) := by
  refine ⟨fun c head => ?_, fun c last => last_trimEnd c last⟩
  obtain ⟨after, whole, -⟩ := exists_append_trimEnd p (text.dropWhile p)
  apply head_dropWhile c
  rw [whole, List.head?_append]
  rw [trim] at head
  rw [head]
  rfl

/-- **Trimming.** A text is trimmed to the middle that has no character of the class at its ends,
when only characters of the class stand before and behind it. -/
theorem trim_eq_iff :
    trim p text = core ↔
      Trimmed p core ∧ ∃ before after, text = before ++ core ++ after ∧
        (∀ c ∈ before, p c) ∧ ∀ c ∈ after, p c := by
  constructor
  · intro same
    subst same
    obtain ⟨before, front, onlyBefore⟩ := exists_append_dropWhile p text
    obtain ⟨after, back, onlyAfter⟩ := exists_append_trimEnd p (text.dropWhile p)
    refine ⟨trimmed_trim p text, before, after, ?_, onlyBefore, onlyAfter⟩
    rw [trim, List.append_assoc, ← back]
    exact front
  · rintro ⟨trimmed, before, after, rfl, onlyBefore, onlyAfter⟩
    rw [trim, List.append_assoc, List.dropWhile_append_of_pos onlyBefore]
    cases core with
    | nil =>
        rw [List.nil_append, List.dropWhile_eq_nil_iff.mpr onlyAfter]
        rfl
    | cons c rest =>
        have kept : p c = false := trimmed.head c rfl
        rw [List.cons_append, List.dropWhile_cons_of_neg (by simp [kept]), ← List.cons_append,
          trimEnd_append onlyAfter, trimEnd_eq_self trimmed.last]

end DocTags.Text
