/-
# Source text cut into comments

The comments that are found in a source text are those of its only cut into gaps and comments: a
gap runs up to the first opening delimiter, a comment from there to the first delimiter that
closes it, and what is left at the end opens no comment that would be closed. The cut is
determined from left to right, by what is at the start of the text that is not yet cut.
-/

import DocTags.Proofs.Comment.Pattern

namespace DocTags.Comment

open Text

/-- No comment is found in a text: it has no opening delimiter, or the first one is not closed. -/
def IsUnclosed (text : Text) : Prop :=
  (∀ place, ¬ OccursAt opening text place) ∨
    ∃ place, FirstAt opening text 0 place ∧ ¬ OccursAt shortest text place ∧
      ∀ later, place + opening.length ≤ later → ¬ OccursAt closing text later

/-- A comment of a source text and the text between it and the comment before. -/
structure Segment where
  gap : Text
  block : Text

/-- A source text is cut into gaps and comments and what is left behind the last of them. -/
structure Segmentation (source : Text) (segments : List Segment) (left : Text) : Prop where
  whole : source = (segments.flatMap fun segment => segment.gap ++ segment.block) ++ left
  blocks : ∀ segment ∈ segments, IsBlock segment.block ∧
    FirstAt opening (segment.gap ++ segment.block) 0 segment.gap.length
  unclosed : IsUnclosed left

/-- Only the places inside a text have to be looked at. -/
theorem isUnclosed_iff {text : Text} :
    IsUnclosed text ↔ (∀ place < text.length, ¬ OccursAt opening text place) ∨
      ∃ place < text.length, FirstAt opening text 0 place ∧ ¬ OccursAt shortest text place ∧
        ∀ later < text.length, place + opening.length ≤ later → ¬ OccursAt closing text later := by
  refine or_congr (forall_not_occursAt_iff (by decide)) (exists_congr fun place =>
    ⟨fun ⟨first, long, unending⟩ => ?_, fun ⟨_, first, long, inside⟩ => ?_⟩)
  · exact ⟨first.occurs.lt_length (by decide), first, long, fun later _ => unending later⟩
  · exact ⟨first, long, fun later least occurs =>
      inside later (occurs.lt_length (by decide)) least occurs⟩

instance (text : Text) : Decidable (IsUnclosed text) :=
  decidable_of_iff' _ isUnclosed_iff

instance (source : Text) (segments : List Segment) (left : Text) :
    Decidable (Segmentation source segments left) :=
  decidable_of_iff (source = (segments.flatMap fun segment => segment.gap ++ segment.block) ++ left ∧
      (∀ segment ∈ segments, IsBlock segment.block ∧
        FirstAt opening (segment.gap ++ segment.block) 0 segment.gap.length) ∧ IsUnclosed left)
    ⟨fun ⟨whole, blocks, unclosed⟩ => ⟨whole, blocks, unclosed⟩,
    fun cut => ⟨cut.whole, cut.blocks, cut.unclosed⟩⟩

/-! ## The first segment -/

/-- A text without segments is what is left uncut. -/
theorem segmentation_of_nil {source left : Text} :
    Segmentation source [] left ↔ left = source ∧ IsUnclosed source := by
  refine ⟨fun cut => ?_, fun ⟨same, unclosed⟩ => ?_⟩
  · have same : left = source := cut.whole.symm
    rw [same] at cut
    exact ⟨same, cut.unclosed⟩
  · rw [same]
    exact ⟨rfl, by simp, unclosed⟩

/-- Behind the first segment a text is cut in the same way. -/
theorem segmentation_of_segment {source gap block left : Text} {later : List Segment} :
    Segmentation source (⟨gap, block⟩ :: later) left ↔
      ∃ after, source = gap ++ block ++ after ∧ IsBlock block ∧
        FirstAt opening (gap ++ block) 0 gap.length ∧ Segmentation after later left := by
  refine ⟨fun cut => ?_, fun ⟨after, whole, isBlock, first, cut⟩ => ?_⟩
  · obtain ⟨isBlock, first⟩ := cut.blocks _ List.mem_cons_self
    have whole := cut.whole
    rw [List.flatMap_cons, List.append_assoc] at whole
    refine ⟨_, whole, isBlock, first, rfl, ?_, cut.unclosed⟩
    intro segment member
    exact cut.blocks segment (List.mem_cons_of_mem _ member)
  · have through : source = ((⟨gap, block⟩ :: later : List Segment).flatMap fun segment =>
        segment.gap ++ segment.block) ++ left := by
      rw [List.flatMap_cons, List.append_assoc, ← cut.whole]
      exact whole
    refine ⟨through, ?_, cut.unclosed⟩
    intro segment member
    rcases List.mem_cons.mp member with here | behind
    · rw [here]
      exact ⟨isBlock, first⟩
    · exact cut.blocks segment behind

/-- A segment whose comment is the first to open in a text that opens has no gap. -/
theorem gap_eq_nil {source gap block rest : Text} (opens : opening <+: source)
    (whole : source = gap ++ block ++ rest) (isBlock : IsBlock block)
    (first : FirstAt opening (gap ++ block) 0 gap.length) : gap = [] := by
  have room : opening.length ≤ (gap ++ block).length := by
    rw [List.length_append]
    exact Nat.le_trans isBlock.opens.length_le (Nat.le_add_left _ _)
  have here : opening <+: gap ++ block :=
    List.prefix_of_prefix_length_le (whole ▸ opens) (List.prefix_append _ _) room
  exact List.length_eq_zero_iff.mp (first.unique (firstAt_self here))

/-- The first comment of a text that opens is the one at its start. -/
theorem blockAt_of_segmentation {source gap block left : Text} {later : List Segment}
    (opens : opening <+: source) (cut : Segmentation source (⟨gap, block⟩ :: later) left) :
    gap = [] ∧ ∃ after, blockAt source = some (block, after) ∧ Segmentation after later left := by
  obtain ⟨after, whole, isBlock, first, rest⟩ := segmentation_of_segment.mp cut
  have noGap := gap_eq_nil opens whole isBlock first
  rw [noGap, List.nil_append] at whole
  exact ⟨noGap, after, blockAt_eq_some_iff.mpr ⟨whole, isBlock⟩, rest⟩

/-! ## What is left uncut -/

/-- A text that opens is left uncut just when no comment is found at its start. -/
theorem isUnclosed_iff_of_opens {text : Text} (opens : opening <+: text) :
    IsUnclosed text ↔ blockAt text = none := by
  rw [blockAt_eq_none_iff opens]
  refine ⟨fun unclosed => ?_, fun ⟨long, unending⟩ => ?_⟩
  · rcases unclosed with never | ⟨place, first, long, unending⟩
    · exact absurd opens (never 0)
    · obtain rfl := first.unique (firstAt_self opens)
      refine ⟨long, ?_⟩
      intro place least
      exact unending place (by omega)
  · refine Or.inr ⟨0, firstAt_self opens, long, ?_⟩
    intro place least
    exact unending place (by omega)

/-- A character at which nothing opens does not matter for what is left uncut. -/
theorem isUnclosed_cons {c : Char} {text : Text} (later : ¬ opening <+: c :: text) :
    IsUnclosed (c :: text) ↔ IsUnclosed text := by
  refine ⟨fun unclosed => ?_, fun unclosed => ?_⟩
  · rcases unclosed with never | ⟨place, first, long, unending⟩
    · exact Or.inl fun place => never (place + 1)
    · cases place with
      | zero => exact absurd first.occurs later
      | succ place =>
          refine Or.inr ⟨place, (firstAt_cons_succ later).mp first, long, ?_⟩
          intro after least
          exact unending (after + 1) (by omega)
  · rcases unclosed with never | ⟨place, first, long, unending⟩
    · left
      intro place
      cases place with
      | zero => exact later
      | succ place => exact never place
    · refine Or.inr ⟨place + 1, (firstAt_cons_succ later).mpr first, long, ?_⟩
      intro after least
      cases after with
      | zero => omega
      | succ after => exact unending after (by omega)

/-! ## One step of the cut -/

/-- A text is cut behind the comment at its start. -/
theorem segmentation_of_block {source block after left : Text} {segments : List Segment}
    (found : blockAt source = some (block, after)) :
    Segmentation source segments left ↔
      ∃ later, segments = ⟨[], block⟩ :: later ∧ Segmentation after later left := by
  obtain ⟨whole, isBlock⟩ := blockAt_eq_some_iff.mp found
  have opens : opening <+: source := isBlock.opens.trans ⟨after, whole.symm⟩
  refine ⟨fun cut => ?_, fun ⟨later, same, cut⟩ => ?_⟩
  · cases segments with
    | nil =>
        have uncut := (isUnclosed_iff_of_opens opens).mp (segmentation_of_nil.mp cut).2
        rw [found] at uncut
        cases uncut
    | cons segment later =>
        obtain ⟨noGap, rest, again, cut⟩ := blockAt_of_segmentation opens cut
        rw [found] at again
        cases again
        exact ⟨later, by rw [← noGap], cut⟩
  · rw [same]
    exact segmentation_of_segment.mpr ⟨after, whole, isBlock, firstAt_self isBlock.opens, cut⟩

/-- A text that opens without being closed is left uncut. -/
theorem segmentation_of_open {source left : Text} {segments : List Segment}
    (opens : opening <+: source) (noBlock : blockAt source = none) :
    Segmentation source segments left ↔ segments = [] ∧ left = source := by
  refine ⟨fun cut => ?_, fun ⟨uncut, same⟩ => ?_⟩
  · cases segments with
    | nil => exact ⟨rfl, (segmentation_of_nil.mp cut).1⟩
    | cons segment later =>
        obtain ⟨-, rest, found, -⟩ := blockAt_of_segmentation opens cut
        rw [noBlock] at found
        cases found
  · rw [uncut]
    exact segmentation_of_nil.mpr ⟨same, (isUnclosed_iff_of_opens opens).mpr noBlock⟩

/-- There is nothing to cut in the empty text. -/
theorem segmentation_of_empty {left : Text} {segments : List Segment} :
    Segmentation [] segments left ↔ segments = [] ∧ left = [] := by
  refine ⟨fun cut => ?_, fun ⟨uncut, same⟩ => ?_⟩
  · cases segments with
    | nil => exact ⟨rfl, (segmentation_of_nil.mp cut).1⟩
    | cons segment later =>
        obtain ⟨after, whole, isBlock, -, -⟩ := segmentation_of_segment.mp cut
        have empty := List.append_eq_nil_iff.mp (List.append_eq_nil_iff.mp whole.symm).1
        have opens := isBlock.opens
        rw [empty.2] at opens
        exact absurd opens (by decide)
  · have closed : IsUnclosed [] := Or.inl (by simp [OccursAt, opening])
    rw [uncut]
    exact segmentation_of_nil.mpr ⟨same, closed⟩

/-- Without segments, a character at which nothing opens is left uncut with the rest. -/
theorem segmentation_cons_nil {c : Char} {source left : Text} (later : ¬ opening <+: c :: source) :
    Segmentation (c :: source) [] left ↔
      ∃ rest, left = c :: rest ∧ Segmentation source [] rest := by
  simp [segmentation_of_nil, isUnclosed_cons later]

/-- A character at which nothing opens belongs to the first gap. -/
theorem segmentation_cons_segment {c : Char} {source gap block left : Text} {others : List Segment}
    (later : ¬ opening <+: c :: source) :
    Segmentation (c :: source) (⟨gap, block⟩ :: others) left ↔
      ∃ shorter, gap = c :: shorter ∧ Segmentation source (⟨shorter, block⟩ :: others) left := by
  have notHere {shorter after : Text} (whole : source = shorter ++ block ++ after) :
      ¬ opening <+: c :: (shorter ++ block) := by
    intro early
    apply later
    rw [whole]
    exact early.trans (List.prefix_append (c :: (shorter ++ block)) after)
  simp only [segmentation_of_segment]
  refine ⟨fun ⟨after, whole, isBlock, first, cut⟩ => ?_,
    fun ⟨shorter, same, after, whole, isBlock, first, cut⟩ => ?_⟩
  · cases gap with
    | nil => exact absurd (isBlock.opens.trans ⟨after, whole.symm⟩) later
    | cons d shorter =>
        obtain ⟨rfl, rest⟩ := List.cons.inj whole
        have first := (firstAt_cons_succ (notHere rest)).mp first
        exact ⟨shorter, rfl, after, rest, isBlock, first, cut⟩
  · have first := (firstAt_cons_succ (notHere whole)).mpr first
    rw [same]
    exact ⟨after, congrArg (c :: ·) whole, isBlock, first, cut⟩

/-! ## The cut -/

/-- The comments of some segments with their lines, when the first segment starts on the given
line. -/
def locate (line : Nat) : List Segment → List Block
  | [] => []
  | ⟨gap, block⟩ :: later =>
    ⟨line + newlines gap, block⟩ :: locate (line + newlines gap + newlines block) later

/-- Every text has one segmentation, and its comments are the ones that are found. A character where
no comment begins goes to the first gap, or to what is left when no comment follows. -/
theorem exists_segmentation (line : Nat) (source : Text) :
    ∃ segments left, (∀ others rest,
        Segmentation source others rest ↔ others = segments ∧ rest = left) ∧
      blocksFrom line source = locate line segments := by
  fun_induction blocksFrom line source with
  | case1 line =>
      exact ⟨[], [], fun others rest => segmentation_of_empty, rfl⟩
  | case2 line c rest block after found ih =>
      obtain ⟨segments, left, only, lines⟩ := ih
      refine ⟨⟨[], block⟩ :: segments, left, ?_, ?_⟩
      · intro others tail
        simp [segmentation_of_block found, only, ← and_assoc]
      · rw [lines]
        rfl
  | case3 line c rest noBlock opens =>
      have starts : opening <+: c :: rest := List.isPrefixOf_iff_prefix.mp opens
      exact ⟨[], c :: rest, fun others tail => segmentation_of_open starts noBlock, rfl⟩
  | case4 line c rest noBlock opens ih =>
      have later : ¬ opening <+: c :: rest := mt List.isPrefixOf_iff_prefix.mpr opens
      obtain ⟨segments, left, only, lines⟩ := ih
      cases segments with
      | nil =>
          refine ⟨[], c :: left, ?_, by rw [lines]; rfl⟩
          intro others tail
          cases others with
          | nil => simp [segmentation_cons_nil later, only]
          | cons segment others => simp [segmentation_cons_segment later, only]
      | cons segment segments =>
          obtain ⟨gap, block⟩ := segment
          refine ⟨⟨c :: gap, block⟩ :: segments, left, ?_, ?_⟩
          · intro others tail
            cases others with
            | nil => simp [segmentation_cons_nil later, only]
            | cons segment others =>
                obtain ⟨otherGap, otherBlock⟩ := segment
                rw [segmentation_cons_segment later]
                simp [only, and_assoc]
          · have counted : newlines (c :: gap) = newlines [c] + newlines gap :=
              newlines_append [c] gap
            rw [lines, locate, locate, counted, Nat.add_assoc]

/-- Every text can be cut. -/
theorem exists_cut (source : Text) : ∃ segments left, Segmentation source segments left := by
  obtain ⟨segments, left, only, -⟩ := exists_segmentation 1 source
  exact ⟨segments, left, (only segments left).mpr ⟨rfl, rfl⟩⟩

/-- The comments that are found in a text are those of its cut. -/
theorem Segmentation.blocksFrom_eq {source left : Text} {segments : List Segment}
    (cut : Segmentation source segments left) (line : Nat) :
    blocksFrom line source = locate line segments := by
  obtain ⟨others, rest, only, lines⟩ := exists_segmentation line source
  rw [lines, ((only segments left).mp cut).1]

theorem map_text_locate (line : Nat) (segments : List Segment) :
    (locate line segments).map Block.text = segments.map Segment.block := by
  induction segments generalizing line with
  | nil => rfl
  | cons segment later ih => rw [locate, List.map_cons, List.map_cons, ih]

/-- **Segmentation.** The comments found in a source text are what the pattern of a comment finds
there from left to right, and they are the comments of the one way to cut the text into gaps
without an earlier opening, comments up to their first close, and an end without a comment. -/
theorem blocks_segmentation (source : Text) :
    (blocks source).map Block.text = pattern.findAll source ∧
      ∃ segments left, (∀ others rest,
          Segmentation source others rest ↔ others = segments ∧ rest = left) ∧
        (blocks source).map Block.text = segments.map Segment.block := by
  refine ⟨(findAll_pattern 1 source).symm, ?_⟩
  obtain ⟨segments, left, only, lines⟩ := exists_segmentation 1 source
  refine ⟨segments, left, only, ?_⟩
  rw [blocks, lines, map_text_locate]

end DocTags.Comment
