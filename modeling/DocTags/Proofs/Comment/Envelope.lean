/-
# The envelope of a comment

A text is read as a comment exactly when it starts with the opening delimiter and ends with the
closing one, and the first delimiter that it lacks is the one that is reported. What is read is
the text between the delimiters; in the shortest comment they share an asterisk, and there is
nothing between them.
-/

import DocTags.Comment.Parse
import DocTags.Proofs.Text.Occurrence

namespace DocTags.Comment

/-- The comment whose delimiters share an asterisk. -/
def shortest : Text :=
  ['/', '*', '*', '/']

/-- A text holds another one between its delimiters, and nothing where they share an asterisk. -/
def Holds (text inner : Text) : Prop :=
  if text = shortest then inner = [] else text = opening ++ inner ++ closing

instance (text inner : Text) : Decidable (Holds text inner) :=
  inferInstanceAs (Decidable (if text = shortest then inner = []
    else text = opening ++ inner ++ closing))

/-- A text between the delimiters is read back. -/
theorem body_enclosed (inner : Text) : body (opening ++ inner ++ closing) = .ok inner := by
  have ends : closing.isSuffixOf (opening ++ inner ++ closing) = true :=
    List.isSuffixOf_iff_suffix.mpr ⟨opening ++ inner, rfl⟩
  have rest : opening.isPrefixOf? (opening ++ inner ++ closing) = some (inner ++ closing) := by
    simp
  have read : closing.isSuffixOf? (inner ++ closing) = some inner := by
    simp
  simp only [body, rest, ends, if_true, read, Option.getD_some]

/-- The shortest comment has an empty body. -/
theorem body_shortest : body shortest = .ok [] :=
  rfl

/-- A text with both delimiters is the shortest comment, or it has them apart. -/
theorem eq_shortest_or_enclosed {text : Text} (starts : opening <+: text)
    (ends : closing <:+ text) :
    text = shortest ∨ ∃ inner, text = opening ++ inner ++ closing := by
  obtain ⟨rest, rfl⟩ := starts
  have places : closing = '*' :: rest ∨ closing <:+ rest := by
    simpa [opening, closing, List.suffix_cons_iff] using ends
  rcases places with shared | ⟨inner, rfl⟩
  · left
    rw [closing, List.cons.injEq] at shared
    rw [← shared.2]
    rfl
  · exact Or.inr ⟨inner, by simp⟩

/-- The shortest comment is too short for delimiters that stand apart. -/
theorem enclosed_ne_shortest (inner : Text) : opening ++ inner ++ closing ≠ shortest := by
  intro same
  have long := congrArg List.length same
  simp [opening, closing, shortest] at long

/-- A text that does not open is refused for that, whatever its end. -/
theorem body_of_not_opening {text : Text} (starts : ¬ opening <+: text) :
    body text = .error .noOpening := by
  rw [body, Text.isPrefixOf?_eq_none starts]

/-- A text that opens and does not close is refused for its end. -/
theorem body_of_not_closing {text : Text} (starts : opening <+: text) (ends : ¬ closing <:+ text) :
    body text = .error .noClosing := by
  obtain ⟨rest, rfl⟩ := starts
  have cut : opening.isPrefixOf? (opening ++ rest) = some rest := by
    simp
  have refused : closing.isSuffixOf (opening ++ rest) = false := by
    rw [← Bool.not_eq_true, List.isSuffixOf_iff_suffix]
    exact ends
  simp [body, cut, refused]

/-- A text that lacks a delimiter is refused. -/
theorem exists_malformed {text : Text} (lacks : ¬ (opening <+: text ∧ closing <:+ text)) :
    ∃ malformed, body text = .error malformed := by
  by_cases starts : opening <+: text
  · exact ⟨_, body_of_not_closing starts fun ends => lacks ⟨starts, ends⟩⟩
  · exact ⟨_, body_of_not_opening starts⟩

/-- A text with both delimiters is read, and what is read is what it holds. -/
theorem exists_body {text : Text} (starts : opening <+: text) (ends : closing <:+ text) :
    ∃ inner, Holds text inner ∧ body text = .ok inner := by
  rcases eq_shortest_or_enclosed starts ends with rfl | ⟨inner, rfl⟩
  · exact ⟨[], by simp [Holds], body_shortest⟩
  · refine ⟨inner, ?_, body_enclosed inner⟩
    rw [Holds, if_neg (enclosed_ne_shortest inner)]

/-- What a text holds is what is read of it. -/
theorem body_of_holds {text inner : Text} (holds : Holds text inner) : body text = .ok inner := by
  unfold Holds at holds
  by_cases short : text = shortest
  · rw [if_pos short] at holds
    rw [short, holds, body_shortest]
  · rw [if_neg short] at holds
    rw [holds, body_enclosed]

/-- Nothing is read of a text but what it holds. -/
theorem body_eq_ok_iff {text inner : Text} : body text = .ok inner ↔ Holds text inner := by
  refine ⟨fun read => ?_, body_of_holds⟩
  by_cases delimited : opening <+: text ∧ closing <:+ text
  · obtain ⟨held, holds, readHeld⟩ := exists_body delimited.1 delimited.2
    rw [readHeld] at read
    rwa [← Except.ok.inj read]
  · obtain ⟨malformed, refused⟩ := exists_malformed delimited
    rw [refused] at read
    cases read

/-- A text holds at most one text. -/
theorem Holds.unique {text first second : Text} (one : Holds text first)
    (other : Holds text second) : first = second := by
  unfold Holds at one other
  by_cases short : text = shortest
  · rw [if_pos short] at one other
    rw [one, other]
  · rw [if_neg short] at one other
    simpa using one.symm.trans other

/-- A comment is parsed into the tree of the tags of its body. -/
theorem parse_eq_ok_iff {text : Text} {tree : Tree} :
    parse text = .ok tree ↔ ∃ inner, body text = .ok inner ∧ treeOf (Tag.ofBody inner) = tree := by
  cases read : body text with
  | error malformed => simp [parse, read, bind, Except.bind]
  | ok inner => simp [parse, read, bind, Except.bind, pure, Except.pure]

end DocTags.Comment
