/-
# Where found comments stand

The comments that are found in a source text stand one behind the other, each where the gap before
it ends. The search carries a line along, and every gap and every comment moves it on by its own
newlines, so that at each comment it is one more than the newlines of all that stands before. This
number never goes down, and it does not go beyond the last line of the text.
-/

import DocTags.Proofs.Comment.Lines

namespace DocTags

namespace Text

/-- The number of lines of a text. A newline ends its line, and what stands behind the last
newline, if anything, is one more line. -/
def lineCount (text : Text) : Nat :=
  match text.getLast? with
  | none => 0
  | some last => if last = '\n' then newlines text else newlines text + 1

/-- A text that is not empty has a line. -/
theorem lineCount_pos {text : Text} (some : text ≠ []) : 0 < lineCount text := by
  rw [lineCount, List.getLast?_eq_some_getLast some]
  by_cases ended : text.getLast some = '\n'
  · have member : '\n' ∈ text := ended ▸ List.getLast_mem some
    have counted : 0 < newlines text := List.count_pos_iff.mpr member
    simpa only [if_pos ended] using counted
  · simp only [if_neg ended, Nat.zero_lt_succ]

/-- The lines of a text that goes on are the newlines so far and the lines of the rest. -/
theorem lineCount_append (front : Text) {rest : Text} (some : rest ≠ []) :
    lineCount (front ++ rest) = newlines front + lineCount rest := by
  rw [lineCount, lineCount, List.getLast?_append_of_ne_nil front some,
    List.getLast?_eq_some_getLast some, newlines_append]
  by_cases ended : rest.getLast some = '\n'
  · simp only [if_pos ended]
  · simp only [if_neg ended, Nat.add_assoc]

end Text

namespace Comment

open Text

/-! ## Offsets -/

/-- The offset at which the comment of a segment starts, given by the number of segments before
that one. -/
def startOf : List Segment → Nat → Nat
  | [], _ => 0
  | ⟨gap, _⟩ :: _, 0 => gap.length
  | ⟨gap, block⟩ :: later, number + 1 => gap.length + block.length + startOf later number

/-- What some segments were cut from. -/
def uncut (segments : List Segment) : Text :=
  segments.flatMap fun segment => segment.gap ++ segment.block

theorem uncut_cons (gap block : Text) (later : List Segment) :
    uncut (⟨gap, block⟩ :: later) = gap ++ block ++ uncut later :=
  List.flatMap_cons

variable {number : Nat} {segments : List Segment} {segment : Segment} {source left : Text}

/-- The comment of a segment stands at its offset. -/
theorem occursAt_uncut (left : Text) (here : segments[number]? = some segment) :
    OccursAt segment.block (uncut segments ++ left) (startOf segments number) := by
  induction segments generalizing number with
  | nil => cases here
  | cons first later ih =>
      obtain ⟨gap, block⟩ := first
      rw [uncut_cons, List.append_assoc]
      cases number with
      | zero =>
          obtain rfl := Option.some.inj here
          rw [startOf, OccursAt, List.append_assoc, List.drop_left]
          exact List.prefix_append _ _
      | succ number =>
          rw [startOf, ← List.length_append]
          exact (occursAt_append_left (gap ++ block)).mpr (ih here)

/-- A located comment is on the first line, moved on by the newlines before its offset. All of the
first segment stands before the later offsets. -/
theorem getElem?_locate (line : Nat) (segments : List Segment) (left : Text) (number : Nat) :
    (locate line segments)[number]? = segments[number]?.map fun segment =>
      ⟨line + newlines ((uncut segments ++ left).take (startOf segments number)),
        segment.block⟩ := by
  induction segments generalizing line number with
  | nil => rfl
  | cons first later ih =>
      obtain ⟨gap, block⟩ := first
      rw [uncut_cons, List.append_assoc, locate]
      cases number with
      | zero => simp [startOf]
      | succ number =>
          rw [startOf, ← List.length_append, List.take_length_add_append, newlines_append,
            newlines_append, List.getElem?_cons_succ, ih, List.getElem?_cons_succ,
            ← Nat.add_assoc, ← Nat.add_assoc]

/-- A comment is found on the line that the newlines before its offset lead to. -/
theorem getElem?_blocks (cut : Segmentation source segments left) (number : Nat) :
    (blocks source)[number]? = segments[number]?.map fun segment =>
      ⟨1 + newlines (source.take (startOf segments number)), segment.block⟩ := by
  have whole : source = uncut segments ++ left := cut.whole
  rw [blocks, cut.blocksFrom_eq, getElem?_locate 1 segments left, ← whole]

theorem occursAt_startOf (cut : Segmentation source segments left)
    (here : segments[number]? = some segment) :
    OccursAt segment.block source (startOf segments number) := by
  have whole : source = uncut segments ++ left := cut.whole
  rw [whole]
  exact occursAt_uncut left here

/-! ## Lines -/

/-- The line of a place is a line of the text. -/
theorem succ_newlines_take_le (source : Text) {mark : Text} {place : Nat} (proper : mark ≠ [])
    (occurs : OccursAt mark source place) :
    1 + newlines (source.take place) ≤ lineCount source := by
  have rest : source.drop place ≠ [] := by
    intro nothing
    rw [OccursAt, nothing] at occurs
    exact proper (List.prefix_nil.mp occurs)
  have counted := lineCount_append (source.take place) rest
  rw [List.take_append_drop] at counted
  have line := lineCount_pos rest
  omega

theorem IsBlock.ne_nil {block : Text} (isBlock : IsBlock block) : block ≠ [] := by
  rintro rfl
  exact absurd isBlock.opens (by decide)

/-- **Lines.** The comments found in a source text are those of the segments of its only cut, one
for each and in their order. Each of them stands at an offset behind all earlier segments and its
own gap, and its line is one more than the newlines before this offset. So the lines never go down,
and none of them is beyond the last line of the text. -/
theorem blocks_lines (source : Text) :
    ∃ (segments : List Segment) (left : Text),
      (∀ others rest, Segmentation source others rest ↔ others = segments ∧ rest = left) ∧
      (∀ number : Nat, (blocks source)[number]? = segments[number]?.map fun segment =>
        ⟨1 + newlines (source.take (startOf segments number)), segment.block⟩) ∧
      (∀ (number : Nat) segment, segments[number]? = some segment →
        OccursAt segment.block source (startOf segments number)) ∧
      (blocks source).Pairwise (fun block later => block.line ≤ later.line) ∧
      ∀ block ∈ blocks source, block.line ≤ lineCount source := by
  obtain ⟨segments, left, only, -⟩ := exists_segmentation 1 source
  have cut : Segmentation source segments left := (only segments left).mpr ⟨rfl, rfl⟩
  refine ⟨segments, left, only, getElem?_blocks cut, fun number segment => occursAt_startOf cut,
    pairwise_line_blocks source, fun block member => ?_⟩
  obtain ⟨number, found⟩ := List.getElem?_of_mem member
  rw [getElem?_blocks cut] at found
  obtain ⟨segment, here, rfl⟩ := Option.map_eq_some_iff.mp found
  have isBlock := (cut.blocks segment (List.mem_of_getElem? here)).1
  exact succ_newlines_take_le source isBlock.ne_nil (occursAt_startOf cut here)

/-- Newlines in a gap and in a comment, two comments on one line, and an end that opens a comment
without closing it. -/
theorem blocks_lines_of_gaps :
    let source := "a\n/***/\n\n/** @x\n */ b /**/\n/** c".toList
    (blocks source)[0]? = some ⟨2, "/***/".toList⟩ ∧
      (blocks source)[1]? = some ⟨4, "/** @x\n */".toList⟩ ∧
      (blocks source)[2]? = some ⟨5, "/**/".toList⟩ ∧ 5 ≤ lineCount source ∧
      lineCount source = 6 := by
  intro source
  have cut : Segmentation source
      [⟨['a', '\n'], "/***/".toList⟩, ⟨['\n', '\n'], "/** @x\n */".toList⟩,
        ⟨[' ', 'b', ' '], shortest⟩] "\n/** c".toList := by
    decide
  obtain ⟨segments, left, only, lines, -, -, below⟩ := blocks_lines source
  obtain ⟨rfl, rfl⟩ := (only _ _).mp cut
  have third : (blocks source)[2]? = some ⟨5, "/**/".toList⟩ := lines 2
  exact ⟨lines 0, lines 1, third, below _ (List.mem_of_getElem? third), by decide⟩

end Comment

end DocTags
