/-
# Strings between three quotes are read back

Between three quotes, newlines stand for themselves, and one or two quotes may stand anywhere, also
in front of the closing ones, but nowhere a third one. So the reader, where it sees three quotes or
more in a row, stands before the last one or two characters of the text, or at its end. What follows
the string must not start with a quote, which would be taken for one of the closing ones.
-/

import DocTags.Proofs.Toml.Escapes

namespace DocTags.Toml

/-! ## Runs of quotes -/

section Runs

variable {mark : Char}

theorem le_longestRunFrom (run longest : Nat) (text : Text) :
    longest ≤ longestRunFrom mark run longest text := by
  induction text generalizing run longest with
  | nil => exact Nat.le_refl _
  | cons c text ih =>
      rw [longestRunFrom]
      by_cases same : c = mark
      · rw [if_pos same]
        exact Nat.le_trans (Nat.le_max_left _ _) (ih _ _)
      · rw [if_neg same]
        exact ih _ _

/-- A run that goes on is counted to its end. -/
theorem add_le_longestRunFrom {run longest : Nat} (counted : run ≤ longest) (more : Nat)
    (after : Text) :
    run + more ≤ longestRunFrom mark run longest (List.replicate more mark ++ after) := by
  induction more generalizing run longest with
  | zero => exact Nat.le_trans counted (le_longestRunFrom _ _ _)
  | succ more ih =>
      rw [List.replicate_succ, List.cons_append, longestRunFrom, if_pos rfl]
      have further := ih (Nat.le_max_right longest (run + 1))
      omega

/-- No run in a text is longer than the longest one. Whatever stands before it, the run that is
being counted where it starts is at most the longest one so far. -/
theorem le_longestRun {length : Nat} {text : Text}
    (occurs : List.replicate length mark <:+: text) : length ≤ longestRun mark text := by
  obtain ⟨before, after, rfl⟩ := occurs
  have inside : ∀ {run longest : Nat}, run ≤ longest →
      length ≤ longestRunFrom mark run longest
        (before ++ (List.replicate length mark ++ after)) := by
    induction before with
    | nil =>
        intro run longest counted
        exact Nat.le_trans (Nat.le_add_left _ _) (add_le_longestRunFrom counted length after)
    | cons c before ih =>
        intro run longest counted
        rw [List.cons_append, longestRunFrom]
        by_cases same : c = mark
        · rw [if_pos same]
          exact ih (Nat.le_max_right _ _)
        · rw [if_neg same]
          exact ih (Nat.zero_le _)
  rw [List.append_assoc]
  exact inside (Nat.le_refl 0)

/-- A text without runs does not hold the mark. -/
theorem not_mem_of_longestRun {text : Text} (none : longestRun mark text = 0) : mark ∉ text := by
  intro member
  have single : List.replicate 1 mark <:+: text := by
    obtain ⟨before, after, rfl⟩ := List.append_of_mem member
    exact ⟨before, after, by simp⟩
  have counted := le_longestRun single
  omega

/-- A text starts with a mark, but not with three of them, and three marks close it. Then at most
one more mark is left of the text, or the first mark is not followed by two others. -/
theorem endsWith_or_goesOn {text : Text} (noTriple : ¬ [mark, mark, mark] <+: mark :: text)
    (rest : Text) :
    text = [] ∨ text = [mark] ∨ ¬ [mark, mark] <+: text ++ mark :: mark :: mark :: rest := by
  cases text with
  | nil => exact Or.inl rfl
  | cons second text =>
      right
      by_cases same : second = mark
      · subst same
        cases text with
        | nil => exact Or.inl rfl
        | cons third text =>
            right
            intro twice
            apply noTriple
            simpa using twice
      · right
        intro twice
        rw [List.cons_append, List.cons_prefix_cons] at twice
        exact same twice.1.symm

end Runs

/-! ## Between three double quotes -/

/-- A plain character breaks no line. -/
theorem newline_of_isPlain {c : Char} (plain : isPlain c = true) (rest : Text) :
    newline (c :: rest) = none := by
  have noLine : c ≠ '\n' := by
    rintro rfl
    cases plain
  have noReturn : c ≠ '\r' := by
    rintro rfl
    cases plain
  unfold newline
  split
  case h_1 same => exact absurd (List.cons.inj same).1 noLine
  case h_2 same => exact absurd (List.cons.inj same).1 noReturn
  case h_3 => rfl

/-- A character that is not escaped and does not start the closing quotes is read as itself. -/
theorem longBasicChars_cons {fuel : Nat} {c : Char} {more chars rest : Text}
    (plain : isPlain c = true ∨ c = '\n') (noBackslash : c ≠ '\\')
    (goesOn : ¬ ['"', '"', '"'] <+: c :: more)
    (read : longBasicChars fuel more = some (chars, rest)) :
    longBasicChars (fuel + 1) (c :: more) = some (c :: chars, rest) := by
  have noClosing : ∀ after, c :: more ≠ '"' :: '"' :: '"' :: after := by
    intro after same
    exact goesOn ⟨after, same.symm⟩
  unfold longBasicChars
  split
  case h_1 same => cases same
  case h_2 same => exact absurd same (noClosing _)
  case h_3 same => exact absurd same (noClosing _)
  case h_4 same => exact absurd same (noClosing _)
  case h_5 same => exact absurd (List.cons.inj same).1 noBackslash
  case h_6 same _ _ _ _ =>
    obtain rfl := Nat.succ.inj same
    rcases plain with plain | rfl
    · simp only [newline_of_isPlain plain, if_pos plain, read]
      rfl
    · simp only [newline, read]
      rfl

/-- The last three quotes close the string, and one or two in front of them belong to it. -/
theorem longBasicChars_closing {quotes : Text}
    (few : quotes = [] ∨ quotes = ['"'] ∨ quotes = ['"', '"']) (fuel : Nat) {rest : Text}
    (apart : rest.head? ≠ some '"') :
    longBasicChars (fuel + 1) (quotes ++ '"' :: '"' :: '"' :: rest) = some (quotes, rest) := by
  have noQuote : ∀ after, rest ≠ '"' :: after := by
    rintro after rfl
    exact apart rfl
  rcases few with rfl | rfl | rfl
  · rw [List.nil_append, longBasicChars]
    · exact fun after => noQuote ('"' :: after)
    · exact noQuote
  · rw [List.cons_append, List.nil_append, longBasicChars]
    exact noQuote
  · rfl

/-- A written character is read as that character, and then the rest is read. -/
theorem longBasicChars_escapedChar {fuel : Nat} {more chars rest : Text}
    (read : longBasicChars fuel more = some (chars, rest)) (c : Char) :
    longBasicChars (fuel + 1) (escapedChar true c ++ more) = some (c :: chars, rest) := by
  rcases escapedChar_cases true c with
    ⟨code, escapes, written⟩ | ⟨noQuote, noBackslash, plain, written⟩
  · rw [written, List.cons_append, longBasicChars, escapes.not_joined, escapes.meaning]
    simp [read]
  · rw [written, List.cons_append, List.nil_append]
    apply longBasicChars_cons
    · exact plain.imp_right And.left
    · exact noBackslash
    · intro closing
      rw [List.cons_prefix_cons] at closing
      exact noQuote closing.1.symm
    · exact read

/-- A bare quote is read, with what follows it. -/
theorem longBasicChars_bareQuote {run fuel : Nat} (room : run < 2) {text rest : Text}
    (apart : rest.head? ≠ some '"')
    (read : longBasicChars fuel (escapedFrom 2 true (run + 1) text ++ '"' :: '"' :: '"' :: rest) =
      some (text, rest)) :
    longBasicChars (fuel + 1)
        ('"' :: (escapedFrom 2 true (run + 1) text ++ '"' :: '"' :: '"' :: rest)) =
      some ('"' :: text, rest) := by
  have noTriple : ¬ ['"', '"', '"'] <+: '"' :: escapedFrom 2 true (run + 1) text := by
    intro triple
    rw [List.cons_prefix_cons] at triple
    have two : List.replicate 2 '"' <+: escapedFrom 2 true (run + 1) text := triple.2
    have few := add_le_of_quotes_prefix room two
    omega
  rcases endsWith_or_goesOn noTriple rest with ends | ends | goesOn
  · rw [ends, eq_nil_of_escapedFrom ends]
    exact longBasicChars_closing (.inr (.inl rfl)) fuel apart
  · rw [ends, eq_quote_of_escapedFrom ends]
    exact longBasicChars_closing (.inr (.inr rfl)) fuel apart
  · apply longBasicChars_cons
    · left
      rfl
    · decide
    · intro closing
      rw [List.cons_prefix_cons] at closing
      exact goesOn closing.2
    · exact read

/-- A text between three double quotes is read up to the closing ones. -/
theorem longBasicChars_escapedFrom (text : Text) {rest : Text} (apart : rest.head? ≠ some '"')
    (run : Nat) {fuel : Nat} (enough : text.length < fuel) :
    longBasicChars fuel (escapedFrom 2 true run text ++ '"' :: '"' :: '"' :: rest) =
      some (text, rest) := by
  induction text generalizing fuel run with
  | nil =>
      obtain ⟨fuel, rfl⟩ := Nat.exists_eq_succ_of_ne_zero (Nat.ne_zero_of_lt enough)
      exact longBasicChars_closing (.inl rfl) fuel apart
  | cons c text ih =>
      obtain ⟨fuel, rfl⟩ := Nat.exists_eq_succ_of_ne_zero (Nat.ne_zero_of_lt enough)
      have later : text.length < fuel := Nat.lt_of_succ_lt_succ enough
      rw [escapedFrom]
      by_cases bare : c = '"' ∧ run < 2
      · rw [if_pos bare, bare.1]
        exact longBasicChars_bareQuote bare.2 apart (ih (run + 1) later)
      · rw [if_neg bare, List.append_assoc]
        exact longBasicChars_escapedChar (ih 0 later) c

/-! ## Between three single quotes -/

/-- A character that does not start the closing quotes is read as itself. -/
theorem longLiteralChars_cons {fuel : Nat} {c : Char} {more chars rest : Text}
    (plain : isPlain c = true ∨ c = '\n') (goesOn : ¬ ['\'', '\'', '\''] <+: c :: more)
    (read : longLiteralChars fuel more = some (chars, rest)) :
    longLiteralChars (fuel + 1) (c :: more) = some (c :: chars, rest) := by
  have noClosing : ∀ after, c :: more ≠ '\'' :: '\'' :: '\'' :: after := by
    intro after same
    exact goesOn ⟨after, same.symm⟩
  unfold longLiteralChars
  split
  case h_1 same => cases same
  case h_2 same => exact absurd same (noClosing _)
  case h_3 same => exact absurd same (noClosing _)
  case h_4 same => exact absurd same (noClosing _)
  case h_5 same _ _ _ =>
    obtain rfl := Nat.succ.inj same
    rcases plain with plain | rfl
    · simp only [newline_of_isPlain plain, if_pos plain, read]
      rfl
    · simp only [newline, read]
      rfl

/-- The last three quotes close the string, and one or two in front of them belong to it. -/
theorem longLiteralChars_closing {quotes : Text}
    (few : quotes = [] ∨ quotes = ['\''] ∨ quotes = ['\'', '\'']) (fuel : Nat) {rest : Text}
    (apart : rest.head? ≠ some '\'') :
    longLiteralChars (fuel + 1) (quotes ++ '\'' :: '\'' :: '\'' :: rest) =
      some (quotes, rest) := by
  have noQuote : ∀ after, rest ≠ '\'' :: after := by
    rintro after rfl
    exact apart rfl
  rcases few with rfl | rfl | rfl
  · rw [List.nil_append, longLiteralChars]
    · exact fun after => noQuote ('\'' :: after)
    · exact noQuote
  · rw [List.cons_append, List.nil_append, longLiteralChars]
    exact noQuote
  · rfl

/-- A text between three single quotes that does not hold three of them in a row is read up to the
closing ones. -/
theorem longLiteralChars_append {text : Text} (plain : ∀ c ∈ text, isPlain c = true ∨ c = '\n')
    (noTriple : ¬ ['\'', '\'', '\''] <:+: text) {rest : Text} (apart : rest.head? ≠ some '\'')
    {fuel : Nat} (enough : text.length < fuel) :
    longLiteralChars fuel (text ++ '\'' :: '\'' :: '\'' :: rest) = some (text, rest) := by
  induction text generalizing fuel with
  | nil =>
      obtain ⟨fuel, rfl⟩ := Nat.exists_eq_succ_of_ne_zero (Nat.ne_zero_of_lt enough)
      exact longLiteralChars_closing (.inl rfl) fuel apart
  | cons c text ih =>
      obtain ⟨fuel, rfl⟩ := Nat.exists_eq_succ_of_ne_zero (Nat.ne_zero_of_lt enough)
      obtain ⟨here, plain⟩ := List.forall_mem_cons.mp plain
      rw [List.infix_cons_iff, not_or] at noTriple
      have read := ih plain noTriple.2 (Nat.lt_of_succ_lt_succ enough)
      by_cases quote : c = '\''
      · subst quote
        rcases endsWith_or_goesOn noTriple.1 rest with rfl | rfl | goesOn
        · exact longLiteralChars_closing (.inr (.inl rfl)) fuel apart
        · exact longLiteralChars_closing (.inr (.inr rfl)) fuel apart
        · apply longLiteralChars_cons here _ read
          intro closing
          rw [List.cons_prefix_cons] at closing
          exact goesOn closing.2
      · apply longLiteralChars_cons here _ read
        intro closing
        rw [List.cons_prefix_cons] at closing
        exact quote closing.1.symm

end DocTags.Toml
