/-
# Laws of cutting a text

Cutting at a separator undoes writing pieces one after the other: a text without the separator is
its own only piece, and a piece, the separator and more text are cut right behind the piece. So
lines that hold no newline are the pieces of the text that they make up. More generally, a list is
cut in one way only where its items cease to have a property.
-/

import DocTags.Text.Basic

namespace DocTags.Text

/-- There is always a first piece. -/
theorem splitOn_ne_nil (separator : Char) (text : Text) : splitOn separator text ≠ [] := by
  fun_cases splitOn separator text <;> simp

/-- A text without the separator is its only piece. -/
theorem splitOn_of_not_mem {separator : Char} {text : Text} (plain : separator ∉ text) :
    splitOn separator text = [text] := by
  induction text with
  | nil => rfl
  | cons c rest ih =>
      simp only [List.mem_cons, not_or] at plain
      have differs : c ≠ separator := Ne.symm plain.1
      simp [splitOn, differs, ih plain.2]

/-- The first cut is behind the first piece. -/
theorem splitOn_append_cons {separator : Char} {piece : Text} (plain : separator ∉ piece)
    (rest : Text) :
    splitOn separator (piece ++ separator :: rest) = piece :: splitOn separator rest := by
  induction piece with
  | nil => simp [splitOn]
  | cons c piece ih =>
      simp only [List.mem_cons, not_or] at plain
      have differs : c ≠ separator := Ne.symm plain.1
      simp [splitOn, differs, ih plain.2]

/-- Behind any separator the cuts are those of what follows. -/
theorem splitOn_append_separator (separator : Char) (front rest : Text) :
    splitOn separator (front ++ separator :: rest) =
      splitOn separator front ++ splitOn separator rest := by
  induction front with
  | nil => simp [splitOn]
  | cons c front ih =>
      by_cases here : c = separator
      · simp [splitOn, here, ih]
      · cases cut : splitOn separator front with
        | nil => exact absurd cut (splitOn_ne_nil separator front)
        | cons piece pieces => simp [splitOn, here, ih, cut]

/-- The pieces of a text make it up again. -/
theorem joinWith_splitOn (separator : Char) (text : Text) :
    joinWith [separator] (splitOn separator text) = text := by
  induction text with
  | nil => rfl
  | cons c rest ih =>
      obtain ⟨piece, pieces, cut⟩ := List.exists_cons_of_ne_nil (splitOn_ne_nil separator rest)
      rw [cut] at ih
      by_cases here : c = separator
      · simp [splitOn, here, cut, joinWith, ih]
      · rw [splitOn, if_neg here, cut]
        rw [← ih]
        cases pieces <;> simp [joinWith]

/-- What the separator does not occur in belongs to the first piece. -/
theorem exists_splitOn_append {separator : Char} {start : Text} (plain : separator ∉ start)
    (rest : Text) :
    ∃ piece pieces, splitOn separator (start ++ rest) = (start ++ piece) :: pieces := by
  induction start with
  | nil => exact List.exists_cons_of_ne_nil (splitOn_ne_nil separator rest)
  | cons c start ih =>
      simp only [List.mem_cons, not_or] at plain
      obtain ⟨piece, pieces, cut⟩ := ih plain.2
      have differs : c ≠ separator := Ne.symm plain.1
      exact ⟨piece, pieces, by simp [splitOn, differs, cut]⟩

/-- A piece of a longer text is empty, or a piece of the rest, perhaps with the new character at
its start. -/
theorem mem_splitOn_cons {separator c : Char} {rest piece : Text}
    (member : piece ∈ splitOn separator (c :: rest)) :
    piece = [] ∨ piece ∈ splitOn separator rest ∨
      ∃ shorter ∈ splitOn separator rest, separator ≠ c ∧ piece = c :: shorter := by
  by_cases here : c = separator
  · rw [splitOn, if_pos here] at member
    exact (List.mem_cons.mp member).imp_right Or.inl
  · cases cut : splitOn separator rest with
    | nil => exact absurd cut (splitOn_ne_nil separator rest)
    | cons first pieces =>
        rw [splitOn, if_neg here, cut] at member
        right
        rcases List.mem_cons.mp member with longer | later
        · exact Or.inr ⟨first, List.mem_cons_self, Ne.symm here, longer⟩
        · exact Or.inl (List.mem_cons_of_mem first later)

/-- No piece holds the separator. -/
theorem not_mem_of_mem_splitOn {separator : Char} {text piece : Text}
    (member : piece ∈ splitOn separator text) : separator ∉ piece := by
  induction text generalizing piece with
  | nil => simp_all [splitOn]
  | cons c rest ih =>
      rcases mem_splitOn_cons member with rfl | later | ⟨shorter, later, differs, rfl⟩
      · exact List.not_mem_nil
      · exact ih later
      · simp [differs, ih later]

/-- The characters of a piece are characters of the text. -/
theorem subset_of_mem_splitOn {separator : Char} {text piece : Text}
    (member : piece ∈ splitOn separator text) : piece ⊆ text := by
  induction text generalizing piece with
  | nil => simp_all [splitOn]
  | cons c rest ih =>
      rcases mem_splitOn_cons member with rfl | later | ⟨shorter, later, -, rfl⟩
      · exact List.nil_subset _
      · exact List.subset_cons_of_subset c (ih later)
      · exact List.cons_subset_cons c (ih later)

/-- A list has one front part of items with a property that is followed by none or by an item
without it. -/
theorem append_inj_of_boundary {α : Type} {p : α → Bool} {front other back rest : List α}
    (inside : ∀ a ∈ front, p a = true) (boundary : ∀ a, back.head? = some a → p a = false)
    (otherInside : ∀ a ∈ other, p a = true) (restBoundary : ∀ a, rest.head? = some a → p a = false)
    (same : front ++ back = other ++ rest) : front = other ∧ back = rest := by
  have stops : ∀ {list : List α}, (∀ a, list.head? = some a → p a = false) →
      list.takeWhile p = [] := by
    intro list bound
    cases list with
    | nil => rfl
    | cons a list => simp [bound a rfl]
  have fronts := congrArg (List.takeWhile p) same
  rw [List.takeWhile_append_of_pos inside, List.takeWhile_append_of_pos otherInside,
    stops boundary, stops restBoundary, List.append_nil, List.append_nil] at fronts
  subst fronts
  exact ⟨rfl, List.append_cancel_left same⟩

/-- Lines, and a last one that no newline follows, are the pieces of the text that they make up. -/
theorem splitOn_unlines_append {lines : List Text} {last : Text}
    (plain : ∀ line ∈ lines, '\n' ∉ line) (lastPlain : '\n' ∉ last) :
    splitOn '\n' (unlines lines ++ last) = lines ++ [last] := by
  induction lines with
  | nil => exact splitOn_of_not_mem lastPlain
  | cons line lines ih =>
      obtain ⟨linePlain, restPlain⟩ := List.forall_mem_cons.mp plain
      have whole : unlines (line :: lines) ++ last = line ++ '\n' :: (unlines lines ++ last) := by
        simp [unlines]
      rw [whole, splitOn_append_cons linePlain, ih restPlain, List.cons_append]

/-- The pieces of a text that parts are joined into are those of each part. -/
theorem splitOn_joinWith_eq_flatMap {separator : Char} {parts : List Text} (some : parts ≠ []) :
    splitOn separator (joinWith [separator] parts) = parts.flatMap (splitOn separator) := by
  induction parts with
  | nil => exact absurd rfl some
  | cons part parts ih =>
      cases parts with
      | nil => simp [joinWith]
      | cons next parts =>
          rw [joinWith, List.append_assoc, List.singleton_append, splitOn_append_separator,
            ih (List.cons_ne_nil next parts)]
          rfl

/-- Pieces without the separator are the pieces of the text that they are joined into. -/
theorem splitOn_joinWith {separator : Char} {pieces : List Text} (some : pieces ≠ [])
    (plain : ∀ piece ∈ pieces, separator ∉ piece) :
    splitOn separator (joinWith [separator] pieces) = pieces := by
  have alone : ∀ piece ∈ pieces, splitOn separator piece = [piece] := fun piece member =>
    splitOn_of_not_mem (plain piece member)
  rw [splitOn_joinWith_eq_flatMap some, List.flatMap_def, List.map_congr_left alone,
    ← List.flatMap_def, List.flatMap_singleton']

end DocTags.Text
