/-
# Lines are read back

A string, an array of strings and a truth value are read as the values that they were written for,
and a line with a key and such a value, or with a header, does to what has been read so far just
what its key and its value say. So a text can be followed line by line, whatever the values are.
-/

import DocTags.Proofs.Toml.Strings
import DocTags.Toml.Reader

namespace DocTags.Toml

/-! ## Values -/

/-- A string is read where a value is expected. -/
theorem value_writeString (levels : Nat) (text : Text) {rest : Text} (apart : IsApart rest) :
    value levels (writeString text ++ rest) = some (.text text, rest) := by
  obtain ⟨quote, body, written, kind⟩ := exists_writeString text
  have read := string_writeString text apart
  rw [written, List.cons_append] at read ⊢
  have single : scalar (quote :: (body ++ rest)) = some (.text text, rest) := by
    rw [scalar, if_pos kind, read]
    rfl
  cases levels with
  | zero => exact single
  | succ levels => rcases kind with rfl | rfl <;> exact single

/-- No space stands in front of a string. -/
theorem skipSpace_writeString (text rest : Text) :
    skipSpace (writeString text ++ rest) = writeString text ++ rest := by
  obtain ⟨quote, body, written, kind⟩ := exists_writeString text
  rw [written]
  rcases kind with rfl | rfl <;> rfl

section Items

variable {levels fuel : Nat} {text front rest : Text}

/-- A string and a comma stand in front of the other items. -/
theorem items_comma {others : List Value} {after : Text}
    (skips : skipSpace front = writeString text ++ ',' :: rest)
    (read : items (value levels) fuel rest = some (others, after)) :
    items (value levels) (fuel + 1) front = some (.text text :: others, after) := by
  have apart : IsApart (',' :: rest) := by simp [IsApart]
  have first := value_writeString levels text apart
  have comma : skipSpace (',' :: rest) = ',' :: rest := rfl
  obtain ⟨quote, body, written, kind⟩ := exists_writeString text
  rw [written, List.cons_append] at skips first
  rcases kind with rfl | rfl
  · simp [items, skips, first, comma, read]
  · simp [items, skips, first, comma, read]

/-- The last item stands in front of the closing bracket. -/
theorem items_last (skips : skipSpace front = writeString text ++ ']' :: rest) :
    items (value levels) (fuel + 1) front = some ([.text text], rest) := by
  have apart : IsApart (']' :: rest) := by simp [IsApart]
  have first := value_writeString levels text apart
  have closing : skipSpace (']' :: rest) = ']' :: rest := rfl
  obtain ⟨quote, body, written, kind⟩ := exists_writeString text
  rw [written, List.cons_append] at skips first
  rcases kind with rfl | rfl
  · simp [items, skips, first, closing]
  · simp [items, skips, first, closing]

/-- Strings on lines of their own are read up to the closing bracket. -/
theorem items_lines (texts : List Text) (rest : Text) (enough : texts.length < fuel) :
    items (value levels) fuel
        ('\n' :: (texts.flatMap (fun item =>
          [' ', ' ', ' ', ' '] ++ writeString item ++ [',', '\n']) ++ ']' :: rest)) =
      some (texts.map .text, rest) := by
  induction texts generalizing fuel with
  | nil =>
      obtain ⟨fuel, rfl⟩ := Nat.exists_eq_succ_of_ne_zero (Nat.ne_zero_of_lt enough)
      rfl
  | cons text texts ih =>
      obtain ⟨fuel, rfl⟩ := Nat.exists_eq_succ_of_ne_zero (Nat.ne_zero_of_lt enough)
      have later := ih (Nat.lt_of_succ_lt_succ enough)
      apply items_comma _ later
      simp only [List.flatMap_cons, List.append_assoc, List.cons_append, List.nil_append]
      exact skipSpace_writeString text _

end Items

/-- Every string takes a line at least. -/
theorem length_le_flatMap_lines (texts : List Text) :
    texts.length ≤ (texts.flatMap fun item =>
      [' ', ' ', ' ', ' '] ++ writeString item ++ [',', '\n']).length := by
  induction texts with
  | nil => exact Nat.zero_le _
  | cons text texts ih =>
      rw [List.flatMap_cons, List.length_append]
      simp only [List.length_append, List.length_cons, List.length_nil] at ih ⊢
      omega

/-- A bracket opens an array. -/
theorem value_bracket (levels : Nat) (body : Text) :
    value (levels + 1) ('[' :: body) =
      (items (value levels) (body.length + 1) body).map fun (items, rest) => (.array items, rest) :=
  rfl

/-- An array of strings is read back. -/
theorem value_writeStrings (levels : Nat) (texts : List Text) (rest : Text) :
    value (levels + 1) (writeStrings texts ++ rest) = some (.array (texts.map .text), rest) := by
  fun_cases writeStrings texts with
  | case1 => rfl
  | case2 text =>
      have written : ['['] ++ writeString text ++ [']'] ++ rest =
          '[' :: (writeString text ++ ']' :: rest) := by simp
      rw [written, value_bracket, items_last (skipSpace_writeString text _)]
      rfl
  | case3 several =>
      have written (lines : Text) :
          ['[', '\n'] ++ lines ++ [']'] ++ rest = '[' :: '\n' :: (lines ++ ']' :: rest) := by simp
      have enough := length_le_flatMap_lines texts
      rw [written, value_bracket, items_lines texts rest]
      · rfl
      · rw [List.length_cons, List.length_append]
        omega

/-- A truth value is read back. -/
theorem value_writeBoolean (levels : Nat) (truth : Bool) (rest : Text) :
    value levels (writeBoolean truth ++ rest) = some (.boolean truth, rest) := by
  cases levels <;> cases truth <;> rfl

/-- A value is written so that it is read, behind blanks, up to the end of its line. -/
def Spells (written : Text) (found : Value) : Prop :=
  ∀ rest, value nestingLimit (skipBlanks (' ' :: (written ++ '\n' :: rest))) =
    some (found, '\n' :: rest)

theorem spells_writeString (text : Text) : Spells (writeString text) (.text text) := by
  intro rest
  have apart : IsApart ('\n' :: rest) := by simp [IsApart]
  have read := value_writeString nestingLimit text apart
  obtain ⟨quote, body, written, kind⟩ := exists_writeString text
  rw [written] at read ⊢
  rcases kind with rfl | rfl <;> exact read

/-- A written array starts with a bracket. -/
theorem exists_writeStrings (texts : List Text) : ∃ body, writeStrings texts = '[' :: body := by
  fun_cases writeStrings texts with
  | case1 => exact ⟨_, rfl⟩
  | case2 text => exact ⟨_, rfl⟩
  | case3 several => exact ⟨_, rfl⟩

theorem spells_writeStrings (texts : List Text) :
    Spells (writeStrings texts) (.array (texts.map .text)) := by
  intro rest
  obtain ⟨levels, limit⟩ : ∃ levels, nestingLimit = levels + 1 := ⟨_, rfl⟩
  have read := value_writeStrings levels texts ('\n' :: rest)
  obtain ⟨body, written⟩ := exists_writeStrings texts
  rw [written] at read ⊢
  rw [limit]
  exact read

theorem spells_writeBoolean (truth : Bool) : Spells (writeBoolean truth) (.boolean truth) := by
  intro rest
  have read := value_writeBoolean nestingLimit truth ('\n' :: rest)
  cases truth <;> exact read

/-! ## Keys -/

/-- A key that stands without quotes. -/
def IsBare (key : Text) : Prop :=
  key ≠ [] ∧ key.all isKeyChar = true

instance (key : Text) : Decidable (IsBare key) :=
  inferInstanceAs (Decidable (_ ∧ _))

/-- A key starts with a character that starts nothing else. -/
theorem IsBare.exists_cons {key : Text} (bare : IsBare key) :
    ∃ c others, key = c :: others ∧ isKeyChar c = true := by
  obtain ⟨c, others, rfl⟩ := List.exists_cons_of_ne_nil bare.1
  exact ⟨c, others, rfl, List.all_eq_true.mp bare.2 c List.mem_cons_self⟩

theorem ne_of_isKeyChar {c other : Char} (inKey : isKeyChar c = true)
    (outside : isKeyChar other = false) : c ≠ other := by
  rintro rfl
  rw [inKey] at outside
  cases outside

theorem isBlank_of_isKeyChar {c : Char} (inKey : isKeyChar c = true) : isBlank c = false := by
  simp only [isBlank, Bool.or_eq_false_iff, beq_eq_false_iff_ne]
  exact ⟨ne_of_isKeyChar inKey rfl, ne_of_isKeyChar inKey rfl⟩

/-- A bare key is read up to the first character that cannot stand in it. -/
theorem simpleKey_append {key : Text} (bare : IsBare key) {c : Char} (stops : isKeyChar c = false)
    (rest : Text) : simpleKey (key ++ c :: rest) = some (key, c :: rest) := by
  have inside : ∀ d ∈ key, isKeyChar d = true := List.all_eq_true.mp bare.2
  have front : (key ++ c :: rest).takeWhile isKeyChar = key := by
    rw [List.takeWhile_append_of_pos inside, List.takeWhile_cons, stops]
    simp
  have back : (key ++ c :: rest).dropWhile isKeyChar = c :: rest := by
    rw [List.dropWhile_append_of_pos inside, List.dropWhile_cons, stops]
    simp
  obtain ⟨first, others, rfl, inKey⟩ := bare.exists_cons
  rw [List.cons_append] at front back ⊢
  rw [simpleKey, front, back]
  · intro after same
    exact ne_of_isKeyChar inKey rfl (List.cons.inj same).1
  · intro after same
    exact ne_of_isKeyChar inKey rfl (List.cons.inj same).1

/-- A bare key is the only one of its line if what follows is no dot: only the way without further
keys is left then. -/
theorem keys_append {key : Text} (bare : IsBare key) {c : Char} (stops : isKeyChar c = false)
    {rest : Text} (last : ∀ more, skipBlanks (c :: rest) ≠ '.' :: more) :
    keys (key ++ c :: rest) = some ([key], skipBlanks (c :: rest)) := by
  have start : skipBlanks (key ++ c :: rest) = key ++ c :: rest := by
    obtain ⟨first, others, rfl, inKey⟩ := bare.exists_cons
    rw [skipBlanks, List.cons_append, List.dropWhile_cons, isBlank_of_isKeyChar inKey]
    rfl
  obtain ⟨levels, limit⟩ : ∃ levels, nestingLimit = levels + 1 := ⟨_, rfl⟩
  rw [keys, limit, keysFrom, start, simpleKey_append bare stops]
  simp only [Option.bind_eq_bind, Option.bind_some]
  rfl

/-! ## Lines -/

theorem exactly_cons (c : Char) (rest : Text) : exactly c (c :: rest) = some ((), rest) := by
  rw [exactly, if_pos rfl]

theorem lineEnd_newline (rest : Text) : lineEnd ('\n' :: rest) = some ((), rest) :=
  rfl

section Lines

variable {draft after : Draft} {key : Text}

/-- A line with a bare key and a value defines this value. -/
theorem line_writeField {written : Text} {found : Value} (bare : IsBare key)
    (spells : Spells written found) (defined : draft.define [key] found = some after)
    (rest : Text) : line draft (writeField key written ++ rest) = some (after, rest) := by
  have text : writeField key written ++ rest =
      key ++ ' ' :: '=' :: ' ' :: (written ++ '\n' :: rest) := by simp [writeField]
  have named : keys (key ++ ' ' :: '=' :: ' ' :: (written ++ '\n' :: rest)) =
      some ([key], '=' :: ' ' :: (written ++ '\n' :: rest)) := by
    apply keys_append bare
    · rfl
    · rintro more same
      cases same
  obtain ⟨first, others, rfl, inKey⟩ := bare.exists_cons
  rw [List.cons_append] at text named
  rw [text, line, named]
  · simp only [Option.bind_eq_bind, Option.bind_some, exactly_cons, spells rest, lineEnd_newline,
      defined]
    rfl
  · intro more same
    exact ne_of_isKeyChar inKey rfl (List.cons.inj same).1
  · intro more same
    exact ne_of_isKeyChar inKey rfl (List.cons.inj same).1

/-- A line with a header opens its table. -/
theorem line_writeHeader (bare : IsBare key) (opened : draft.openTable [key] = some after)
    (rest : Text) : line draft (writeHeader key ++ rest) = some (after, rest) := by
  have text : writeHeader key ++ rest = '[' :: (key ++ ']' :: '\n' :: rest) := by
    simp [writeHeader]
  have named : keys (key ++ ']' :: '\n' :: rest) = some ([key], ']' :: '\n' :: rest) := by
    apply keys_append bare
    · rfl
    · rintro more same
      cases same
  obtain ⟨first, others, rfl, inKey⟩ := bare.exists_cons
  rw [List.cons_append] at text named
  rw [text, line, named]
  · simp only [Option.bind_eq_bind, Option.bind_some, exactly_cons, lineEnd_newline, opened]
    rfl
  · intro more same
    exact ne_of_isKeyChar inKey rfl (List.cons.inj same).1

variable {fuel : Nat}

/-- A line that is not empty is read and then the lines behind it. -/
theorem linesFrom_line {c : Char} {text rest : Text}
    (proper : isBlank c = false ∧ c ≠ '#' ∧ c ≠ '\n' ∧ c ≠ '\r')
    (read : line draft (c :: text) = some (after, rest)) :
    linesFrom (fuel + 1) draft (c :: text) = linesFrom fuel after rest := by
  obtain ⟨noBlank, noComment, noLine, noReturn⟩ := proper
  have start : skipBlanks (c :: text) = c :: text := by
    rw [skipBlanks, List.dropWhile_cons, noBlank]
    rfl
  rw [linesFrom, start]
  simp [noComment, noLine, noReturn, read]

/-- An empty line says nothing. -/
theorem linesFrom_newline (rest : Text) :
    linesFrom (fuel + 1) draft ('\n' :: rest) = linesFrom fuel draft rest :=
  rfl

/-- Empty lines at the end of a text say nothing. -/
theorem linesFrom_newlines {count : Nat} (enough : count < fuel) :
    linesFrom fuel draft (List.replicate count '\n') = some draft := by
  induction count generalizing fuel with
  | zero =>
      obtain ⟨fuel, rfl⟩ := Nat.exists_eq_succ_of_ne_zero (Nat.ne_zero_of_lt enough)
      rfl
  | succ count ih =>
      obtain ⟨fuel, rfl⟩ := Nat.exists_eq_succ_of_ne_zero (Nat.ne_zero_of_lt enough)
      rw [List.replicate_succ, linesFrom_newline]
      exact ih (Nat.lt_of_succ_lt_succ enough)

/-- A field of a bare key is defined, and the lines behind it are read. -/
theorem linesFrom_writeField {written : Text} {found : Value} (bare : IsBare key)
    (spells : Spells written found) (defined : draft.define [key] found = some after)
    (rest : Text) :
    linesFrom (fuel + 1) draft (writeField key written ++ rest) = linesFrom fuel after rest := by
  have read := line_writeField bare spells defined rest
  obtain ⟨first, others, rfl, inKey⟩ := bare.exists_cons
  apply linesFrom_line _ read
  exact ⟨isBlank_of_isKeyChar inKey, ne_of_isKeyChar inKey rfl, ne_of_isKeyChar inKey rfl,
    ne_of_isKeyChar inKey rfl⟩

/-- The table of a header is opened, and the lines behind it are read. -/
theorem linesFrom_writeHeader (bare : IsBare key) (opened : draft.openTable [key] = some after)
    (rest : Text) :
    linesFrom (fuel + 1) draft (writeHeader key ++ rest) = linesFrom fuel after rest := by
  apply linesFrom_line (by decide)
  exact line_writeHeader bare opened rest

end Lines

end DocTags.Toml
