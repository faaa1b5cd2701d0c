/-
# Found comments one by one

Every comment that is found in a source text has both of its delimiters, and so it parses, whatever
stands around it. The lines on which the comments open never go down along the text.
-/

import DocTags.Proofs.Comment.Segmentation

namespace DocTags.Comment

theorem IsBlock.closes {block : Text} (isBlock : IsBlock block) : closing <:+ block := by
  rcases isBlock with rfl | ⟨-, -, closes, -⟩
  · exact ⟨['/', '*'], rfl⟩
  · exact closes

/-- A comment parses. -/
theorem IsBlock.exists_parse {block : Text} (isBlock : IsBlock block) :
    ∃ tree, parse block = .ok tree := by
  obtain ⟨inner, -, read⟩ := exists_body isBlock.opens isBlock.closes
  exact ⟨treeOf (Tag.ofBody inner), parse_eq_ok_iff.mpr ⟨inner, read, rfl⟩⟩

/-- A located comment is that of a segment and opens on the first line or below it. -/
theorem mem_locate {line : Nat} {segments : List Segment} {block : Block}
    (member : block ∈ locate line segments) :
    (∃ segment ∈ segments, block.text = segment.block) ∧ line ≤ block.line := by
  induction segments generalizing line with
  | nil => simp [locate] at member
  | cons segment later ih =>
      obtain ⟨gap, text⟩ := segment
      rcases List.mem_cons.mp member with here | behind
      · subst here
        exact ⟨⟨⟨gap, text⟩, List.mem_cons_self, rfl⟩, Nat.le_add_right _ _⟩
      · obtain ⟨⟨segment, inLater, same⟩, below⟩ := ih behind
        exact ⟨⟨segment, List.mem_cons_of_mem _ inLater, same⟩, by omega⟩

theorem pairwise_line_locate (line : Nat) (segments : List Segment) :
    (locate line segments).Pairwise fun block later => block.line ≤ later.line := by
  induction segments generalizing line with
  | nil => exact .nil
  | cons segment later ih =>
      refine .cons ?_ (ih _)
      intro block member
      have below := (mem_locate member).2
      exact Nat.le_trans (Nat.le_add_right _ _) below

/-- Every comment that is found is one. -/
theorem isBlock_of_mem_blocks {source : Text} {block : Block} (member : block ∈ blocks source) :
    IsBlock block.text := by
  obtain ⟨segments, left, cut⟩ := exists_cut source
  rw [blocks, cut.blocksFrom_eq] at member
  obtain ⟨⟨segment, inSegments, same⟩, -⟩ := mem_locate member
  rw [same]
  exact (cut.blocks segment inSegments).1

/-- The lines of the comments that are found never go down. -/
theorem pairwise_line_blocks (source : Text) :
    (blocks source).Pairwise fun block later => block.line ≤ later.line := by
  obtain ⟨segments, left, cut⟩ := exists_cut source
  rw [blocks, cut.blocksFrom_eq]
  exact pairwise_line_locate 1 segments

end DocTags.Comment
