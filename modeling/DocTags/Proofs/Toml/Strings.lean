/-
# Strings are read back

A string is written in one of four forms, and in each of them it is read up to its closing quotes
and gives the text that was written. Two of the forms have no escapes; they are chosen only for
texts that hold nothing but plain characters, and too few quotes to close the string.
-/

import DocTags.Proofs.Toml.LongStrings

namespace DocTags.Toml

/-! ## Between double quotes -/

/-- A written character is read as that character, and then the rest is read. -/
theorem basicChars_escapedChar {fuel : Nat} {more chars rest : Text}
    (read : basicChars fuel more = some (chars, rest)) (c : Char) :
    basicChars (fuel + 1) (escapedChar false c ++ more) = some (c :: chars, rest) := by
  rcases escapedChar_cases false c with
    ⟨code, escapes, written⟩ | ⟨noQuote, noBackslash, plain, written⟩
  · rw [written, List.cons_append, basicChars, escapes.meaning]
    simp [read]
  · have plain : isPlain c = true := by simpa using plain
    rw [written, List.cons_append, List.nil_append, basicChars, if_pos plain, read]
    · rfl
    · exact noQuote
    · exact noBackslash

/-- A text between double quotes is read up to the closing one. -/
theorem basicChars_escapedFrom (text rest : Text) (run : Nat) {fuel : Nat}
    (enough : text.length < fuel) :
    basicChars fuel (escapedFrom 0 false run text ++ '"' :: rest) = some (text, rest) := by
  induction text generalizing fuel run with
  | nil =>
      obtain ⟨fuel, rfl⟩ := Nat.exists_eq_succ_of_ne_zero (Nat.ne_zero_of_lt enough)
      rfl
  | cons c text ih =>
      obtain ⟨fuel, rfl⟩ := Nat.exists_eq_succ_of_ne_zero (Nat.ne_zero_of_lt enough)
      have never : ¬ (c = '"' ∧ run < 0) := by simp
      rw [escapedFrom, if_neg never, List.append_assoc]
      exact basicChars_escapedChar (ih 0 (Nat.lt_of_succ_lt_succ enough)) c

/-! ## Between single quotes -/

/-- Plain characters that are no quotes are read up to the closing quote. -/
theorem literalChars_append {text : Text} (plain : ∀ c ∈ text, isPlain c = true)
    (noQuote : '\'' ∉ text) (rest : Text) :
    literalChars (text ++ '\'' :: rest) = some (text, rest) := by
  induction text with
  | nil => rfl
  | cons c text ih =>
      obtain ⟨here, plain⟩ := List.forall_mem_cons.mp plain
      obtain ⟨differs, noQuote⟩ := not_or.mp (List.mem_cons.not.mp noQuote)
      rw [List.cons_append, literalChars, if_pos here, ih plain noQuote]
      · rfl
      · exact Ne.symm differs

/-! ## The choice of a form -/

/-- A text without characters that need an escape is plain, newlines apart. -/
theorem plain_of_any_needsEscape {text : Text} (free : text.any needsEscape = false) :
    ∀ c ∈ text, isPlain c = true ∨ c = '\n' := by
  intro c member
  by_cases newline : c = '\n'
  · exact Or.inr newline
  · left
    apply isPlain_of_not_needsEscape _ newline
    rw [List.any_eq_false] at free
    simpa using free c member

/-- A text is put between single quotes only if it is plain, holds none, and is not empty. -/
theorem quotingOf_eq_literal {text : Text} (chosen : quotingOf text = .literal) :
    (∀ c ∈ text, isPlain c = true) ∧ '\'' ∉ text ∧ text ≠ [] := by
  have proper : text ≠ [] := by
    rintro rfl
    cases chosen
  simp only [quotingOf] at chosen
  split_ifs at chosen with basic literal
  simp only [Bool.and_eq_true, Bool.not_eq_true', beq_iff_eq] at literal
  obtain ⟨⟨free, oneLine⟩, noQuotes⟩ := literal
  refine ⟨fun c member => ?_, not_mem_of_longestRun noQuotes, proper⟩
  rcases plain_of_any_needsEscape free c member with plain | rfl
  · exact plain
  · simp [member] at oneLine

/-- A text is put between three single quotes only if it is plain, newlines apart, and holds no
three of them in a row. -/
theorem quotingOf_eq_longLiteral {text : Text} (chosen : quotingOf text = .longLiteral) :
    (∀ c ∈ text, isPlain c = true ∨ c = '\n') ∧ ¬ ['\'', '\'', '\''] <:+: text := by
  simp only [quotingOf] at chosen
  split_ifs at chosen with basic literal longBasic longLiteral
  simp only [Bool.and_eq_true, Bool.not_eq_true', decide_eq_true_eq] at longLiteral
  refine ⟨plain_of_any_needsEscape longLiteral.1, fun occurs => ?_⟩
  have three : List.replicate 3 '\'' <:+: text := occurs
  have counted := le_longestRun three
  omega

/-! ## Strings -/

/-- What follows a string is not taken for a part of it when it does not start with a quote. -/
def IsApart (rest : Text) : Prop :=
  rest.head? ≠ some '"' ∧ rest.head? ≠ some '\''

/-- A string whose first quote no two more follow stands between single ones. -/
theorem string_basic {body : Text} (single : ¬ ['"', '"'] <+: body) :
    string ('"' :: body) = basicChars (body.length + 1) body := by
  rw [string]
  rintro rest rfl
  exact single ⟨rest, rfl⟩

theorem string_literal {body : Text} (single : ¬ ['\'', '\''] <+: body) :
    string ('\'' :: body) = literalChars body := by
  rw [string]
  rintro rest rfl
  exact single ⟨rest, rfl⟩

/-- A text between double quotes, with all quotes in it escaped, does not open with three quotes. -/
theorem not_quotes_prefix_basic (text : Text) {rest : Text} (apart : IsApart rest) :
    ¬ ['"', '"'] <+: escapedFrom 0 false 0 text ++ '"' :: rest := by
  intro opens
  cases text with
  | nil =>
      obtain ⟨after, same⟩ := opens
      apply apart.1
      rw [← (List.cons.inj same).2]
      rfl
  | cons c text =>
      obtain ⟨first, code, written, noQuote⟩ := exists_escapedChar false c
      have never : ¬ (c = '"' ∧ 0 < 0) := by simp
      rw [escapedFrom, if_neg never, written, List.append_assoc, List.cons_append,
        List.cons_prefix_cons] at opens
      exact noQuote opens.1.symm

/-- The newline behind three opening quotes is skipped, and no other. -/
theorem skipNewline_ownLine {text body : Text} (unbroken : '\n' ∉ text → newline body = none) :
    skipNewline ((if text.contains '\n' then ['\n'] else []) ++ body) = body := by
  by_cases several : '\n' ∈ text
  · rw [if_pos (by simpa using several)]
    rfl
  · rw [if_neg (by simpa using several), List.nil_append, skipNewline, unbroken several]

/-- A text of one line does not start with a newline when it is written with escapes. -/
theorem newline_escapedFrom {text : Text} (oneLine : '\n' ∉ text) (rest : Text) :
    newline (escapedFrom 2 true 0 text ++ '"' :: rest) = none := by
  cases text with
  | nil => rfl
  | cons c text =>
      rw [escapedFrom]
      by_cases bare : c = '"' ∧ 0 < 2
      · rw [if_pos bare]
        rfl
      · rw [if_neg bare]
        rcases escapedChar_cases true c with ⟨code, -, written⟩ | ⟨-, -, plain, written⟩
        · rw [written]
          rfl
        · have plain : isPlain c = true := by
            apply plain.resolve_right
            rintro ⟨rfl, -⟩
            exact oneLine List.mem_cons_self
          rw [written]
          exact newline_of_isPlain plain _

/-- Nor does it when it is written as it is. -/
theorem newline_append_quote {text : Text} (plain : ∀ c ∈ text, isPlain c = true ∨ c = '\n')
    (oneLine : '\n' ∉ text) (rest : Text) : newline (text ++ '\'' :: rest) = none := by
  cases text with
  | nil => rfl
  | cons c text =>
      apply newline_of_isPlain
      apply (plain c List.mem_cons_self).resolve_right
      rintro rfl
      exact oneLine List.mem_cons_self

/-- **Strings.** A written string is read back, whatever text it holds, if what follows it does not
start with a quote. -/
theorem string_writeString (text : Text) {rest : Text} (apart : IsApart rest) :
    string (writeString text ++ rest) = some (text, rest) := by
  cases chosen : quotingOf text with
  | basic =>
      have written : writeString text ++ rest =
          '"' :: (escapedFrom 0 false 0 text ++ '"' :: rest) := by
        simp [writeString, chosen]
      rw [written, string_basic (not_quotes_prefix_basic text apart)]
      apply basicChars_escapedFrom
      have longer := length_le_escapedFrom 0 false 0 text
      rw [List.length_append]
      omega
  | literal =>
      obtain ⟨plain, noQuote, proper⟩ := quotingOf_eq_literal chosen
      have written : writeString text ++ rest = '\'' :: (text ++ '\'' :: rest) := by
        simp [writeString, chosen]
      rw [written, string_literal]
      · exact literalChars_append plain noQuote rest
      · intro opens
        obtain ⟨c, others, rfl⟩ := List.exists_cons_of_ne_nil proper
        rw [List.cons_append, List.cons_prefix_cons] at opens
        exact noQuote (opens.1 ▸ List.mem_cons_self)
  | longBasic =>
      have written : writeString text ++ rest = '"' :: '"' :: '"' ::
          ((if text.contains '\n' then ['\n'] else []) ++
            (escapedFrom 2 true 0 text ++ '"' :: '"' :: '"' :: rest)) := by
        simp [writeString, chosen]
      rw [written, string, skipNewline_ownLine fun oneLine => newline_escapedFrom oneLine _]
      apply longBasicChars_escapedFrom text apart.1
      have longer := length_le_escapedFrom 2 true 0 text
      rw [List.length_append, List.length_append]
      omega
  | longLiteral =>
      obtain ⟨plain, noTriple⟩ := quotingOf_eq_longLiteral chosen
      have written : writeString text ++ rest = '\'' :: '\'' :: '\'' ::
          ((if text.contains '\n' then ['\n'] else []) ++
            (text ++ '\'' :: '\'' :: '\'' :: rest)) := by
        simp [writeString, chosen]
      rw [written, string, skipNewline_ownLine fun oneLine => newline_append_quote plain oneLine _]
      apply longLiteralChars_append plain noTriple apart.2
      rw [List.length_append, List.length_append]
      omega

/-- A written string starts with a quote of either kind. -/
theorem exists_writeString (text : Text) :
    ∃ quote body, writeString text = quote :: body ∧ (quote = '"' ∨ quote = '\'') := by
  unfold writeString
  cases quotingOf text with
  | basic => exact ⟨_, _, rfl, .inl rfl⟩
  | literal => exact ⟨_, _, rfl, .inr rfl⟩
  | longBasic => exact ⟨_, _, rfl, .inl rfl⟩
  | longLiteral => exact ⟨_, _, rfl, .inr rfl⟩

end DocTags.Toml
