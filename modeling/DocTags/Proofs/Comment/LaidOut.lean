/-
# A laid-out comment is read back

Tags that are set on the lines of a comment, with empty lines between them, are the tags of that
comment in their order, and its tree is the one that they make when they are inserted one after the
other. A tag can be set on a line if nothing of it is taken for a gap or for the end of the line:
its key has no gaps, and neither its value nor, where there is no value, its key has at its ends
what is trimmed there.

In a source text a laid-out comment is found as a whole. Every line stands between characters that
are not in the closing delimiter, so that this delimiter stands only at the end and within lines
that hold it.
-/

import DocTags.Proofs.Comment.Layout
import DocTags.Proofs.Scan.SingleComment
import Mathlib.Data.List.ReduceOption

namespace DocTags

open Text

/-! ## Tags on lines -/

namespace Tag

/-- A tag that can be set on a line. -/
structure FitsLine (tag : Tag) : Prop where
  key : ∀ c ∈ tag.key, c ∉ [' ', '\t', '\n']
  value : '\n' ∉ tag.value
  starts : ∀ c ∈ tag.value.head?, c ∉ [' ', '\t']
  ends : ∀ c ∈ tag.value.getLast?, c ∉ [' ', '\t', '\r']
  lone : tag.value = [] → tag.key.getLast? ≠ some '\r'

instance (tag : Tag) : Decidable tag.FitsLine :=
  decidable_of_iff (tag.key.all (· ∉ [' ', '\t', '\n']) ∧ '\n' ∉ tag.value ∧
      tag.value.head?.all (· ∉ [' ', '\t']) ∧ tag.value.getLast?.all (· ∉ [' ', '\t', '\r']) ∧
      (tag.value = [] → tag.key.getLast? ≠ some '\r')) (by
    simp only [List.all_eq_true, Option.all_eq_true, decide_eq_true_iff]
    exact ⟨fun ⟨key, value, starts, ends, lone⟩ => ⟨key, value, starts, ends, lone⟩,
      fun fits => ⟨fits.key, fits.value, fits.starts, fits.ends, fits.lone⟩⟩)

/-- A tag that can be set on a line is written there as the grammar asks. -/
theorem FitsLine.isWritable {tag : Tag} (fits : tag.FitsLine) : tag.IsWritable := by
  refine ⟨fits.key, fits.value, ?_⟩
  cases empty : tag.value with
  | nil => exact .nothing (fits.lone empty)
  | cons c rest =>
      have starts := fits.starts
      have ends := fits.ends
      rw [empty] at starts ends
      have whole : Tag.behindKey (c :: rest) = [' '] ++ c :: rest := rfl
      rw [whole]
      exact .value (by simp) (by simp) (by simp) starts ends

/-- The line of a tag, or an empty one. -/
def lineOf : Option Tag → Text
  | none => []
  | some tag => tag.line

/-- Only the tag that is set on a line is read from there. -/
theorem ofLine?_behindAsterisk_lineOf {content : Option Tag}
    (fits : ∀ tag ∈ content, tag.FitsLine) :
    ofLine? (Comment.behindAsterisk (lineOf content)) = content := by
  cases content with
  | none => rfl
  | some tag => exact (fits tag rfl).isWritable.ofLine?_behindAsterisk

theorem newline_not_mem_lineOf {content : Option Tag} (fits : ∀ tag ∈ content, tag.FitsLine) :
    '\n' ∉ lineOf content := by
  cases content with
  | none => exact List.not_mem_nil
  | some tag => exact (fits tag rfl).isWritable.newline_not_mem_line

end Tag

namespace Comment

/-- The tags that are set on the lines of a comment are the tags of its body. -/
theorem exists_body_layout_lineOf {lines : List (Option Tag)}
    (fits : ∀ tag ∈ lines.reduceOption, tag.FitsLine) :
    ∃ inner, body (layout (lines.map Tag.lineOf)) = .ok inner ∧
      Tag.ofBody inner = lines.reduceOption := by
  have each : ∀ content ∈ lines, ∀ tag ∈ content, tag.FitsLine := by
    rintro content member tag rfl
    exact fits tag (List.reduceOption_mem_iff.mpr member)
  have plain : ∀ line ∈ lines.map Tag.lineOf, '\n' ∉ line := by
    intro line member
    obtain ⟨content, inLines, rfl⟩ := List.mem_map.mp member
    exact Tag.newline_not_mem_lineOf (each content inLines)
  obtain ⟨inner, read, tags⟩ := exists_body_layout plain
  refine ⟨inner, read, tags.trans ?_⟩
  rw [List.filterMap_map, List.reduceOption]
  exact List.filterMap_congr fun content member =>
    Tag.ofLine?_behindAsterisk_lineOf (each content member)

/-- The tree of some tags is that of their keys and values. -/
theorem treeOf_eq_ofEntries (tags : List Tag) :
    treeOf tags = Tree.ofEntries (tags.map fun tag => (tag.key, tag.value)) := by
  rw [treeOf, Tree.ofEntries, List.foldl_map]

/-! ## A comment as a whole -/

/-- A closing delimiter stands in a line behind its asterisk only if it stands in the line. -/
theorem closing_isInfix_behindAsterisk {line : Text} :
    closing <:+: behindAsterisk line ↔ closing <:+: line := by
  cases line with
  | nil => decide
  | cons c rest =>
      have between := infix_append_cons_iff (show ' ' ∉ closing by decide) [' ', '*'] (c :: rest)
      have before : ¬ closing <:+: [' ', '*'] := by decide
      rw [or_iff_right before] at between
      exact between

/-- A closing delimiter stands in the lines of a layout only if it stands in one of them. -/
theorem closing_isInfix_layoutLines {lines : List Text}
    (clear : ∀ line ∈ lines, ¬ closing <:+: line) : ¬ closing <:+: lines.flatMap layoutLine := by
  induction lines with
  | nil => decide
  | cons line lines ih =>
      obtain ⟨first, rest⟩ := List.forall_mem_cons.mp clear
      rw [List.flatMap_cons, layoutLine_eq, List.append_assoc, List.singleton_append,
        infix_append_cons_iff (by decide), closing_isInfix_behindAsterisk, not_or]
      exact ⟨first, ih rest⟩

/-- A text that opens is closed at its end alone if no closing delimiter stands before. -/
theorem isSingle_append_closing {front : Text} (opens : opening <+: front ++ closing)
    (clear : ¬ closing <:+: front ++ ['*']) : IsSingle (front ++ closing) := by
  have length : closing.length = 2 := rfl
  refine ⟨opens, fun place => ⟨fun occurs => ?_, fun atEnd => ?_⟩⟩
  · by_contra early
    have room := occurs.room (by decide)
    have inside : place + closing.length ≤ (front ++ ['*']).length := by
      simp only [List.length_append, List.length_singleton] at room early ⊢
      omega
    have whole : front ++ closing = front ++ ['*'] ++ ['/'] := by simp [closing]
    rw [whole, occursAt_append_right _ inside] at occurs
    exact clear occurs.isInfix
  · rw [List.length_append] at atEnd
    have same : place = front.length + 0 := by omega
    rw [same, occursAt_append_left]
    exact List.prefix_refl closing

/-- A laid-out comment is closed at its end alone unless a line holds the closing delimiter. -/
theorem isSingle_layout {lines : List Text} (clear : ∀ line ∈ lines, ¬ closing <:+: line) :
    IsSingle (layout lines) := by
  refine isSingle_append_closing ?_ ?_
  · simp
  · have whole : opening ++ ['\n'] ++ lines.flatMap layoutLine ++ [' '] ++ ['*'] =
        opening ++ '\n' :: (lines.flatMap layoutLine ++ ' ' :: ['*']) := by
      simp
    rw [whole, infix_append_cons_iff (by decide), infix_append_cons_iff (by decide), not_or, not_or]
    exact ⟨by decide, closing_isInfix_layoutLines clear, by decide⟩

/-- **Laid-out comments.** Tags that are set on lines, some of which may be empty, are the tags of
the body of the comment with these lines, in their order, and the comment is parsed into the tree in
which they are inserted one after the other. Whatever the lines of a comment are, if none of them
holds the closing delimiter, the comment is found in its own text as the only one, on the first
line. -/
theorem layout_read_back :
    (∀ lines : List (Option Tag), (∀ tag ∈ lines.reduceOption, tag.FitsLine) →
        (∃ inner, body (layout (lines.map Tag.lineOf)) = .ok inner ∧
          Tag.ofBody inner = lines.reduceOption) ∧
        parse (layout (lines.map Tag.lineOf)) =
          .ok (Tree.ofEntries (lines.reduceOption.map fun tag => (tag.key, tag.value)))) ∧
      ∀ lines : List Text, (∀ line ∈ lines, ¬ closing <:+: line) →
        blocks (layout lines) = [⟨1, layout lines⟩] := by
  refine ⟨fun lines fits => ?_, fun lines clear => ?_⟩
  · obtain ⟨inner, read, tags⟩ := exists_body_layout_lineOf fits
    refine ⟨⟨inner, read, tags⟩, parse_eq_ok_iff.mpr ⟨inner, read, ?_⟩⟩
    rw [tags, treeOf_eq_ofEntries]
  · have isBlock := (isSingle_layout clear).isBlock
    have found : blocks ([] ++ layout lines ++ []) = [⟨1 + newlines [], layout lines⟩] :=
      blocks_between (by decide) isBlock (by decide)
    rwa [List.nil_append, List.append_nil] at found

/-- Closing delimiters and carriage returns in keys and values, a tag without key and value, and
lines that make a closing delimiter with no character around them. -/
theorem layout_read_back_of_delimiters :
    let lines : List (Option Tag) := [some ⟨['a', '\r'], "*/ v".toList⟩, none,
      some ⟨['*', '/'], []⟩, some ⟨[], []⟩, some ⟨['a'], "\r@".toList⟩]
    layout (lines.map Tag.lineOf) =
        "/**\n * @a\r */ v\n *\n * @*/\n * @\n * @a \r@\n */".toList ∧
      parse (layout (lines.map Tag.lineOf)) =
        .ok (Tree.ofEntries [(['a', '\r'], "*/ v".toList), (['*', '/'], []), ([], []),
          (['a'], "\r@".toList)]) ∧
      blocks (layout [['*'], ['/'], "\n*".toList]) =
        [⟨1, "/**\n * *\n * /\n * \n*\n */".toList⟩] := by
  intro lines
  exact ⟨by decide, (layout_read_back.1 lines (by decide)).2,
    layout_read_back.2 [['*'], ['/'], "\n*".toList] (by decide)⟩

end Comment

end DocTags
