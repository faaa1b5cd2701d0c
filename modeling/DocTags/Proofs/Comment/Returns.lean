/-
# Carriage returns before newlines

A text is changed by putting a carriage return before each of its newlines. No delimiter of a
comment holds either of the two characters, so that every delimiter stays where it was and none
arises; and a carriage return at the end of a line is trimmed with the other blanks there. So the
tags of a comment stay the same, and the comments of a source text are found on the same lines.
-/

import DocTags.Proofs.Comment.FirstBlock
import DocTags.Proofs.Except
import DocTags.Proofs.Text.Pieces
import DocTags.Proofs.Text.Trimming

namespace DocTags

namespace Text

/-- The text with a carriage return before each of its newlines. -/
def withReturns (text : Text) : Text :=
  text.flatMap fun c => if c = '\n' then ['\r', '\n'] else [c]

theorem withReturns_append (first second : Text) :
    withReturns (first ++ second) = withReturns first ++ withReturns second :=
  List.flatMap_append

theorem withReturns_newline (rest : Text) :
    withReturns ('\n' :: rest) = '\r' :: '\n' :: withReturns rest := rfl

theorem withReturns_cons {c : Char} (plain : c ≠ '\n') (rest : Text) :
    withReturns (c :: rest) = c :: withReturns rest := by
  rw [withReturns, List.flatMap_cons, if_neg plain]
  rfl

/-- A text of one line is left as it is. -/
theorem withReturns_of_not_mem {text : Text} (plain : '\n' ∉ text) : withReturns text = text := by
  induction text with
  | nil => rfl
  | cons c rest ih =>
      simp only [List.mem_cons, not_or] at plain
      rw [withReturns_cons (Ne.symm plain.1), ih plain.2]

/-- The newlines are those that were there. -/
@[simp]
theorem newlines_withReturns (text : Text) : newlines (withReturns text) = newlines text := by
  induction text with
  | nil => rfl
  | cons c rest ih =>
      unfold newlines at ih ⊢
      by_cases newline : c = '\n'
      · subst newline
        rw [withReturns_newline, List.count_cons_of_ne (by decide), List.count_cons_self,
          List.count_cons_self, ih]
      · rw [withReturns_cons newline, List.count_cons_of_ne newline, List.count_cons_of_ne newline,
          ih]

/-! ## Marks -/

section

variable {mark : Text} (noReturn : '\r' ∉ mark) (noNewline : '\n' ∉ mark)

include noReturn noNewline

/-- A text starts with the same marks as before. -/
theorem prefix_withReturns_iff (text : Text) : mark <+: withReturns text ↔ mark <+: text := by
  induction mark generalizing text with
  | nil => simp
  | cons m mark ih =>
      simp only [List.mem_cons, not_or] at noReturn noNewline
      cases text with
      | nil => rfl
      | cons c rest =>
          by_cases newline : c = '\n'
          · subst newline
            simp [withReturns_newline, Ne.symm noReturn.1, Ne.symm noNewline.1]
          · rw [withReturns_cons newline, List.cons_prefix_cons, List.cons_prefix_cons,
              ih noReturn.2 noNewline.2]

/-- A text ends with the same marks as before, since neither of the two characters starts a mark. -/
theorem suffix_withReturns_iff (text : Text) : mark <:+ withReturns text ↔ mark <:+ text := by
  induction text with
  | nil => rfl
  | cons c rest ih =>
      by_cases newline : c = '\n'
      · subst newline
        have startsNot {c : Char} (absent : c ∉ mark) (text : Text) : mark ≠ c :: text :=
          fun same => absent (same ▸ List.mem_cons_self)
        simp [withReturns_newline, List.suffix_cons_iff, startsNot noReturn, startsNot noNewline,
          ih]
      · rw [withReturns_cons newline, List.suffix_cons_iff, List.suffix_cons_iff, ih]
        refine or_congr_left ⟨fun whole => ?_, fun whole => ?_⟩
        · rw [whole, List.mem_cons, not_or] at noNewline
          have plain : '\n' ∉ rest := by
            rw [← List.count_eq_zero, ← newlines, ← newlines_withReturns]
            exact List.count_eq_zero.mpr noNewline.2
          rw [whole, withReturns_of_not_mem plain]
        · rw [whole, List.mem_cons, not_or] at noNewline
          rw [whole, withReturns_of_not_mem noNewline.2]

end

end Text

open Text

/-! ## Tags -/

namespace Tag

/-- A carriage return at the end of a line is trimmed. -/
theorem ofLine?_append_return (line : Text) : ofLine? (line ++ ['\r']) = ofLine? line := by
  have trimmed : trim isLineBlank (line ++ ['\r']) = trim isLineBlank line := by
    obtain ⟨core, before, after, cut, onlyBefore, onlyAfter⟩ :=
      trim_eq_iff.mp (rfl : trim isLineBlank line = _)
    refine trim_eq_iff.mpr ⟨core, before, after ++ ['\r'], ?_, onlyBefore, ?_⟩
    · rw [← List.append_assoc, ← cut]
    · intro c member
      rcases List.mem_append.mp member with old | new
      · exact onlyAfter c old
      · rw [List.mem_singleton.mp new]
        rfl
  rw [ofLine?, ofLine?, trimmed]

/-- The tags of a body are the same with carriage returns. -/
theorem ofBody_withReturns (body : Text) : ofBody (withReturns body) = ofBody body := by
  by_cases newline : '\n' ∈ body
  · obtain ⟨line, rest, cut, plain⟩ := List.eq_append_cons_of_mem newline
    have shorter : rest.length < body.length := by
      rw [cut, List.length_append, List.length_cons]
      omega
    have longer : withReturns body = line ++ ['\r'] ++ '\n' :: withReturns rest := by
      rw [cut, withReturns_append, withReturns_newline, withReturns_of_not_mem plain]
      simp
    have noNewline : '\n' ∉ line ++ ['\r'] := by simp [plain]
    have later := ofBody_withReturns rest
    rw [ofBody, ofBody] at later ⊢
    rw [longer, cut, splitOn_append_cons noNewline, splitOn_append_cons plain, List.filterMap_cons,
      List.filterMap_cons, ofLine?_append_return, later]
  · rw [withReturns_of_not_mem newline]
termination_by body.length

end Tag

namespace Comment

theorem opening_prefix_withReturns_iff (text : Text) :
    opening <+: withReturns text ↔ opening <+: text :=
  prefix_withReturns_iff (by decide) (by decide) text

/-- A comment with carriage returns is parsed into the same tree, and any other text is refused for
the same delimiter. -/
theorem parse_withReturns (text : Text) : parse (withReturns text) = parse text := by
  by_cases starts : opening <+: text
  · by_cases ends : closing <:+ text
    · rcases eq_shortest_or_enclosed starts ends with rfl | ⟨inner, rfl⟩
      · rfl
      · have apart : withReturns (opening ++ inner ++ closing) =
            opening ++ withReturns inner ++ closing := by
          rw [withReturns_append, withReturns_append]
          rfl
        rw [apart, parse, parse, body_enclosed, body_enclosed, ok_bind, ok_bind,
          Tag.ofBody_withReturns]
    · have otherStarts := (opening_prefix_withReturns_iff text).mpr starts
      have otherEnds := mt (suffix_withReturns_iff (by decide) (by decide) text).mp ends
      rw [parse, parse, body_of_not_closing starts ends, body_of_not_closing otherStarts otherEnds]
  · have other := mt (opening_prefix_withReturns_iff text).mp starts
    rw [parse, parse, body_of_not_opening starts, body_of_not_opening other]

/-! ## Comments in source text -/

/-- A comment and what follows it, with carriage returns in both. -/
def cutWithReturns (cut : Text × Text) : Text × Text :=
  (withReturns cut.1, withReturns cut.2)

/-- The first closing delimiter is the same. -/
theorem throughClosing_withReturns (text : Text) :
    throughClosing (withReturns text) = (throughClosing text).map cutWithReturns := by
  induction text with
  | nil => rfl
  | cons c rest ih =>
      by_cases here : closing <+: c :: rest
      · obtain ⟨after, whole⟩ := here
        rw [← whole, withReturns_append]
        rfl
      · have later : ¬ closing <+: withReturns (c :: rest) :=
          mt (prefix_withReturns_iff (by decide) (by decide) _).mp here
        rw [throughClosing_cons here, Option.map_map]
        by_cases newline : c = '\n'
        · subst newline
          rw [withReturns_newline] at later ⊢
          have behind : ¬ closing <+: '\n' :: withReturns rest := by simp [closing]
          rw [throughClosing_cons later, throughClosing_cons behind, ih, Option.map_map,
            Option.map_map]
          rfl
        · rw [withReturns_cons newline] at later ⊢
          rw [throughClosing_cons later, ih, Option.map_map]
          congr 1
          funext cut
          simp [cutWithReturns, withReturns_cons newline]

/-- The comment at the start of a text is the same. -/
theorem blockAt_withReturns (text : Text) :
    blockAt (withReturns text) = (blockAt text).map cutWithReturns := by
  by_cases opens : opening <+: text
  · by_cases short : shortest <+: text
    · obtain ⟨after, rfl⟩ := short
      rw [withReturns_append]
      rfl
    · have long := mt (prefix_withReturns_iff (by decide) (by decide) _).mp short
      obtain ⟨rest, rfl⟩ := opens
      rw [withReturns_append] at long ⊢
      rw [blockAt_opening short, Option.map_map]
      rw [show withReturns opening = opening from rfl] at long ⊢
      rw [blockAt_opening long, throughClosing_withReturns, Option.map_map]
      rfl
  · have other := mt (opening_prefix_withReturns_iff text).mp opens
    rw [blockAt_of_not_opening opens, blockAt_of_not_opening other]
    rfl

/-- A comment with carriage returns on the same line. -/
def Block.withReturns (block : Block) : Block :=
  ⟨block.line, Text.withReturns block.text⟩

/-- The comments that are found are the same, on the same lines, with carriage returns in them. -/
theorem blocksFrom_withReturns (line : Nat) (source : Text) :
    blocksFrom line (Text.withReturns source) = (blocksFrom line source).map Block.withReturns := by
  fun_induction blocksFrom line source with
  | case1 line => simp [Text.withReturns, blocksFrom]
  | case2 line c rest block after found ih =>
      have other :
          blockAt (Text.withReturns (c :: rest)) = some (cutWithReturns (block, after)) := by
        rw [blockAt_withReturns, found]
        rfl
      rw [blocksFrom_of_blockAt line other, newlines_withReturns, ih]
      rfl
  | case3 line c rest unclosed opens =>
      have starts : opening <+: c :: rest := List.isPrefixOf_iff_prefix.mp opens
      have other : blockAt (Text.withReturns (c :: rest)) = none := by
        rw [blockAt_withReturns, unclosed]
        rfl
      rw [blocksFrom_of_open line ((opening_prefix_withReturns_iff _).mpr starts) other]
      rfl
  | case4 line c rest unclosed opens ih =>
      have later : ¬ opening <+: Text.withReturns (c :: rest) :=
        mt (fun early => List.isPrefixOf_iff_prefix.mpr
          ((opening_prefix_withReturns_iff _).mp early)) opens
      by_cases newline : c = '\n'
      · subst newline
        rw [withReturns_newline] at later ⊢
        rw [blocksFrom_cons line later, blocksFrom_cons _ (by simp [opening])]
        exact ih
      · rw [withReturns_cons newline] at later ⊢
        rw [blocksFrom_cons line later]
        exact ih

end Comment

end DocTags
