/-
# Source texts one after the other

The search for comments in a text that goes on behind a newline finds what is in the first part, and
then what is in the second part, on lines that are moved on by the newlines of the first. It does so
whenever the first part leaves no opening delimiter behind its last comment: an opening that is left
there could be closed by the second part, and no delimiter reaches over a newline.
-/

import DocTags.Proofs.Comment.Segmentation

namespace DocTags

/-- A text is empty or ends with a newline. -/
def Text.EndsLine (text : Text) : Prop :=
  text = [] ∨ ∃ front, text = front ++ ['\n']

/-- So is what stands at the end of such a text. -/
theorem Text.EndsLine.of_append {front rest : Text} (ended : EndsLine (front ++ rest)) :
    EndsLine rest := by
  rcases List.eq_nil_or_concat' rest with rfl | ⟨before, last, rfl⟩
  · exact Or.inl rfl
  · rcases ended with nothing | ⟨start, whole⟩
    · simp at nothing
    · rw [← List.append_assoc] at whole
      exact Or.inr ⟨before, by rw [(List.append_inj' whole rfl).2]⟩

namespace Comment

open Text

/-- What stands behind the last comment of a text, or all of a text without comments, opens no
comment. -/
def IsSettled (text : Text) : Prop :=
  ∃ segments left, Segmentation text segments left ∧ ∀ place, ¬ OccursAt opening left place

/-- A comment on a line further down. -/
def Block.below (lines : Nat) (block : Block) : Block :=
  ⟨lines + block.line, block.text⟩

variable {c : Char} {block rest after first : Text}

/-! ## Steps of the search -/

/-- A delimiter that does not open a text that ends with a newline does not open it when the text
goes on. -/
theorem not_opening_append (later : ¬ opening <+: c :: rest) (ended : EndsLine (c :: rest))
    (second : Text) : ¬ opening <+: c :: (rest ++ second) := by
  rcases ended with nothing | ⟨front, whole⟩
  · cases nothing
  · rw [whole, prefix_append_cons_iff (by decide)] at later
    rwa [← List.cons_append, whole, List.append_assoc, List.singleton_append,
      prefix_append_cons_iff (by decide)]

/-- Behind its first comment a text is settled if it is so as a whole. -/
theorem IsSettled.of_block (settled : IsSettled rest) (found : blockAt rest = some (block, after)) :
    IsSettled after := by
  obtain ⟨segments, left, cut, clear⟩ := settled
  obtain ⟨later, -, cutLater⟩ := (segmentation_of_block found).mp cut
  exact ⟨later, left, cutLater, clear⟩

/-- A settled text does not open a comment that nothing closes. -/
theorem IsSettled.blockAt_ne_none (settled : IsSettled rest) (opens : opening <+: rest) :
    blockAt rest ≠ none := by
  intro unclosed
  obtain ⟨segments, left, cut, clear⟩ := settled
  obtain ⟨-, same⟩ := (segmentation_of_open opens unclosed).mp cut
  exact clear 0 (same ▸ opens)

/-- A character at which nothing opens does not matter. -/
theorem IsSettled.of_cons (settled : IsSettled (c :: rest)) (later : ¬ opening <+: c :: rest) :
    IsSettled rest := by
  obtain ⟨segments, left, cut, clear⟩ := settled
  cases segments with
  | nil =>
      obtain ⟨shorter, rfl, cutRest⟩ := (segmentation_cons_nil later).mp cut
      exact ⟨[], shorter, cutRest, fun place => clear (place + 1)⟩
  | cons segment segments =>
      obtain ⟨gap, block⟩ := segment
      obtain ⟨shorter, -, cutRest⟩ := (segmentation_cons_segment later).mp cut
      exact ⟨_, left, cutRest, clear⟩

/-! ## The whole search -/

/-- Behind a settled text that ends with a newline the search goes on as if it began there. What
follows could close an opening that the first text leaves, but a settled text leaves none. -/
theorem blocksFrom_append (line : Nat) (settled : IsSettled first) (ended : EndsLine first)
    (second : Text) :
    blocksFrom line (first ++ second) =
      blocksFrom line first ++ blocksFrom (line + newlines first) second := by
  fun_induction blocksFrom line first with
  | case1 line => rfl
  | case2 line c rest block after found ih =>
      obtain ⟨whole, isBlock⟩ := blockAt_eq_some_iff.mp found
      have goesOn : blockAt (c :: rest ++ second) = some (block, after ++ second) := by
        rw [whole, List.append_assoc]
        exact blockAt_append isBlock (after ++ second)
      have endedAfter : EndsLine after := EndsLine.of_append (whole ▸ ended)
      rw [blocksFrom_of_blockAt line goesOn, ih (settled.of_block found) endedAfter, whole,
        newlines_append, ← Nat.add_assoc]
      rfl
  | case3 line c rest unclosed opens =>
      exact absurd unclosed (settled.blockAt_ne_none (List.isPrefixOf_iff_prefix.mp opens))
  | case4 line c rest unclosed opens ih =>
      have later : ¬ opening <+: c :: rest := mt List.isPrefixOf_iff_prefix.mpr opens
      have endedRest : EndsLine rest := EndsLine.of_append (show EndsLine ([c] ++ rest) from ended)
      have counted : newlines (c :: rest) = newlines [c] + newlines rest := newlines_append [c] rest
      rw [List.cons_append, blocksFrom_cons line (not_opening_append later ended second),
        ih (settled.of_cons later) endedRest, counted, ← Nat.add_assoc]

/-- A search that begins on a later line finds everything that much further down. -/
theorem blocksFrom_add (lines line : Nat) (source : Text) :
    blocksFrom (lines + line) source = (blocksFrom line source).map (Block.below lines) := by
  obtain ⟨segments, left, cut⟩ := exists_cut source
  rw [cut.blocksFrom_eq, cut.blocksFrom_eq]
  clear cut
  induction segments generalizing line with
  | nil => rfl
  | cons segment later ih =>
      obtain ⟨gap, block⟩ := segment
      rw [locate, locate, List.map_cons, ← ih, Nat.add_assoc, Nat.add_assoc, Nat.add_assoc]
      rfl

/-- **Locality.** In a text that is empty or ends with a newline, and that has no opening delimiter
behind its last comment, followed by any other text, the comments that are found are those of the
first text and then those of the second, each of these as many lines further down as the first text
has newlines. -/
theorem blocks_append (settled : IsSettled first) (ended : EndsLine first) (second : Text) :
    blocks (first ++ second) =
      blocks first ++ (blocks second).map fun block => ⟨newlines first + block.line, block.text⟩ := by
  rw [blocks, blocksFrom_append 1 settled ended, Nat.add_comm, blocksFrom_add]
  rfl

/-- The first text ends a line behind a slash and an asterisk, and the second one starts with what
would make a delimiter of them. -/
theorem blocks_append_of_asterisks :
    let first := "a /***/ */\n/*\n".toList
    let second := "* b */\n/** @c */".toList
    blocks (first ++ second) = [⟨1, "/***/".toList⟩, ⟨4, "/** @c */".toList⟩] := by
  intro first second
  have cut : Segmentation first [⟨['a', ' '], "/***/".toList⟩] " */\n/*\n".toList := by decide
  have cutSecond : Segmentation second [⟨"* b */\n".toList, "/** @c */".toList⟩] [] := by decide
  have clear : ∀ place, ¬ OccursAt opening " */\n/*\n".toList place :=
    (forall_not_occursAt_iff (by decide)).mpr (by decide)
  rw [blocks_append ⟨_, _, cut, clear⟩ (Or.inr ⟨"a /***/ */\n/*".toList, by decide⟩), blocks, blocks,
    cut.blocksFrom_eq, cutSecond.blocksFrom_eq]
  decide

end Comment

end DocTags
