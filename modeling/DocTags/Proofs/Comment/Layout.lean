/-
# A laid-out comment is read line by line

The lines that a comment was laid out with are the lines of its body, each behind its asterisk,
between a line without characters and one with a space. So its tags are the tags that these lines
hold, in their order. A tag that could be read from any line can be set on a line of its own, and
is read back from there.
-/

import DocTags.Comment.Layout
import DocTags.Proofs.Comment.Envelope
import DocTags.Proofs.Comment.TagLine
import DocTags.Proofs.Text.Pieces

namespace DocTags

namespace Comment

/-- A line and the asterisk that stands before it. -/
def behindAsterisk (line : Text) : Text :=
  match line with
  | [] => [' ', '*']
  | _ => [' ', '*', ' '] ++ line

theorem layoutLine_eq (line : Text) : layoutLine line = behindAsterisk line ++ ['\n'] := by
  cases line <;> simp [layoutLine, behindAsterisk]

/-- Between the delimiters stand the lines, a newline before them and a space behind them. -/
theorem body_layout (lines : List Text) :
    body (layout lines) = .ok ('\n' :: (Text.unlines (lines.map behindAsterisk) ++ [' '])) := by
  have inner : lines.flatMap layoutLine = Text.unlines (lines.map behindAsterisk) := by
    rw [Text.unlines, List.flatMap_map, funext layoutLine_eq]
  have enclosed : layout lines =
      opening ++ ('\n' :: (Text.unlines (lines.map behindAsterisk) ++ [' '])) ++ closing := by
    simp [layout, inner]
  rw [enclosed, body_enclosed]

/-- No newline stands in a line behind its asterisk that was not in the line. -/
theorem newline_not_mem_behindAsterisk {line : Text} (plain : '\n' ∉ line) :
    '\n' ∉ behindAsterisk line := by
  cases line <;> simp_all [behindAsterisk]

/-- The tags of the body of a laid-out comment are those that its lines hold. -/
theorem exists_body_layout {lines : List Text} (plain : ∀ line ∈ lines, '\n' ∉ line) :
    ∃ inner, body (layout lines) = .ok inner ∧
      Tag.ofBody inner = lines.filterMap fun line => Tag.ofLine? (behindAsterisk line) := by
  have pieces : Text.splitOn '\n' ('\n' :: (Text.unlines (lines.map behindAsterisk) ++ [' '])) =
      [] :: (lines.map behindAsterisk ++ [[' ']]) := by
    have behindPlain : ∀ line ∈ lines.map behindAsterisk, '\n' ∉ line := by
      intro line member
      obtain ⟨inner, innerMember, rfl⟩ := List.mem_map.mp member
      exact newline_not_mem_behindAsterisk (plain inner innerMember)
    rw [Text.splitOn, if_pos rfl, Text.splitOn_unlines_append behindPlain (by decide)]
  have first : Tag.ofLine? [] = none := rfl
  have last : Tag.ofLine? [' '] = none := rfl
  refine ⟨_, body_layout lines, ?_⟩
  simp [Tag.ofBody, pieces, first, last, List.filterMap_map]

/-- The tree of a laid-out comment is that of the tags that its lines hold. -/
theorem parse_layout {lines : List Text} (plain : ∀ line ∈ lines, '\n' ∉ line) :
    parse (layout lines) =
      .ok (treeOf (lines.filterMap fun line => Tag.ofLine? (behindAsterisk line))) := by
  obtain ⟨inner, read, tags⟩ := exists_body_layout plain
  exact parse_eq_ok_iff.mpr ⟨inner, read, congrArg treeOf tags⟩

end Comment

namespace Tag

/-! ## A tag on a line of its own -/

/-- What stands behind the key of a tag that is set on a line: a space and its value, or nothing if
the value is empty. -/
def behindKey (value : Text) : Text :=
  match value with
  | [] => []
  | _ => ' ' :: value

/-- A tag set on a line. -/
def line (tag : Tag) : Text :=
  '@' :: (tag.key ++ behindKey tag.value)

/-- A text without gaps and newlines. -/
def IsUnbroken (text : Text) : Prop :=
  ∀ c ∈ text, c ∉ [' ', '\t', '\n']

theorem IsUnbroken.not_mem {text : Text} (unbroken : IsUnbroken text) {c : Char}
    (breaks : c ∈ [' ', '\t', '\n']) : c ∉ text :=
  fun member => unbroken c member breaks

/-- A tag that a line can hold: neither gaps nor newlines in its key, no newline in its value, and
a value that is written behind the key as the grammar asks. -/
structure IsWritable (tag : Tag) : Prop where
  key : IsUnbroken tag.key
  value : '\n' ∉ tag.value
  written : Writes tag.key (behindKey tag.value) tag.value

/-- A value that is written in some way is written behind a single space. -/
theorem Writes.behindKey {key rest value : Text} (written : Writes key rest value) :
    Writes key (behindKey value) value := by
  cases written with
  | nothing ends => exact .nothing ends
  | @value gaps value apart only proper starts ends =>
      have space : Tag.behindKey value = [' '] ++ value := by
        cases value with
        | nil => exact absurd rfl proper
        | cons c value => rfl
      rw [space]
      exact .value (by simp) (by simp) proper starts ends

theorem Writes.value_subset {key rest value : Text} (written : Writes key rest value) :
    value ⊆ rest := by
  cases written with
  | nothing ends => exact List.Subset.refl []
  | value apart only proper starts ends => exact List.subset_append_right _ _

/-- Every tag of a body can be set on a line. -/
theorem isWritable_of_mem_ofBody {body : Text} {tag : Tag} (member : tag ∈ ofBody body) :
    tag.IsWritable := by
  obtain ⟨line, inBody, read⟩ := List.mem_filterMap.mp member
  have noNewline : '\n' ∉ line := Text.not_mem_of_mem_splitOn inBody
  obtain ⟨key, value⟩ := tag
  cases ofLine?_eq_some_iff_isLine.mp read with
  | @line before marker key rest value after start marked plain written stop =>
      have keyInside : key ⊆ before ++ (marker ++ '@' :: (key ++ rest)) ++ after := by
        intro c inKey
        simp [inKey]
      have valueInside : value ⊆ before ++ (marker ++ '@' :: (key ++ rest)) ++ after := by
        intro c inValue
        simp [written.value_subset inValue]
      refine ⟨?_, fun inValue => noNewline (valueInside inValue), written.behindKey⟩
      intro c inKey
      have noGap := plain c inKey
      have noLine : c ≠ '\n' := fun same => noNewline (keyInside (same ▸ inKey))
      simp only [List.mem_cons, List.not_mem_nil, or_false, not_or] at noGap ⊢
      exact ⟨noGap.1, noGap.2, noLine⟩

theorem IsWritable.newline_not_mem_line {tag : Tag} (writable : tag.IsWritable) :
    '\n' ∉ tag.line := by
  have noKey : '\n' ∉ tag.key := writable.key.not_mem (by decide)
  have noRest : '\n' ∉ behindKey tag.value := by
    cases value : tag.value with
    | nil => exact List.not_mem_nil
    | cons c rest =>
        have noValue := writable.value
        rw [value] at noValue
        simp_all [behindKey]
  simp [line, noKey, noRest]

/-- A tag that is set on a line of a comment is read back from there. -/
theorem IsWritable.ofLine?_behindAsterisk {tag : Tag} (writable : tag.IsWritable) :
    ofLine? (Comment.behindAsterisk tag.line) = some tag := by
  have plain : ∀ c ∈ tag.key, c ∉ [' ', '\t'] := by
    intro c inKey gap
    exact writable.key c inKey (List.mem_append_left ['\n'] gap)
  have whole : Comment.behindAsterisk tag.line =
      [' '] ++ (['*', ' '] ++ '@' :: (tag.key ++ behindKey tag.value)) ++ [] := by
    simp [Comment.behindAsterisk, line]
  rw [whole]
  exact ofLine?_eq_some_iff_isLine.mpr
    (.line (by simp) (.asterisk (by simp)) plain writable.written (by simp))

end Tag

namespace Comment

/-- **Layout.** Tags that are set on the lines of a comment are the tags of that comment. -/
theorem parse_layout_lines {tags : List Tag} (writable : ∀ tag ∈ tags, tag.IsWritable) :
    parse (layout (tags.map Tag.line)) = .ok (treeOf tags) := by
  have plain : ∀ line ∈ tags.map Tag.line, '\n' ∉ line := by
    intro line member
    obtain ⟨tag, inTags, rfl⟩ := List.mem_map.mp member
    exact (writable tag inTags).newline_not_mem_line
  have read : tags.filterMap (fun tag => Tag.ofLine? (behindAsterisk tag.line)) = tags := by
    rw [List.filterMap_congr fun tag member => (writable tag member).ofLine?_behindAsterisk,
      List.filterMap_some]
  rw [parse_layout plain, List.filterMap_map]
  exact congrArg (fun tags => Except.ok (treeOf tags)) read

end Comment

end DocTags
