/-
# A file that holds one comment

A file is read in two ways: as the one comment that it holds, or as source text in which comments
are found. Where a comment is all that stands between the blank characters of a file, and nothing
closes it before its end, both readings give the same tree, and the line of the comment that is
found is the one behind the newlines above it.
-/

import DocTags.Files.Memory
import DocTags.Proofs.Scan.Matches
import DocTags.Proofs.Text.Trimming

namespace DocTags

namespace Comment

open Text

variable {text gap block after content : Text}

/-- A text opens as a comment, and the one place of the closing delimiter in it is its end. -/
structure IsSingle (text : Text) : Prop where
  opens : opening <+: text
  closes : ∀ place, OccursAt closing text place ↔ place + closing.length = text.length

/-- Only the places inside a text have to be looked at. -/
theorem isSingle_iff : IsSingle text ↔ opening <+: text ∧
    ∀ place < text.length, OccursAt closing text place ↔ place + closing.length = text.length := by
  refine ⟨fun single => ⟨single.opens, fun place _ => single.closes place⟩,
    fun ⟨opens, closes⟩ => ⟨opens, fun place => ?_⟩⟩
  by_cases inside : place < text.length
  · exact closes place inside
  · have length : closing.length = 2 := rfl
    exact ⟨fun occurs => absurd (occurs.lt_length (by decide)) inside, fun atEnd => by omega⟩

instance (text : Text) : Decidable (IsSingle text) :=
  decidable_of_iff' _ isSingle_iff

/-- A text that is closed at its end alone is a comment. It does not start with the shortest one,
which would bring a closing delimiter that is not at the end. -/
theorem IsSingle.isBlock (single : IsSingle text) : IsBlock text := by
  have long : 3 ≤ text.length := single.opens.length_le
  obtain ⟨place, atEnd⟩ : ∃ place, place + closing.length = text.length :=
    ⟨text.length - 2, Nat.sub_add_cancel (by omega)⟩
  have occurs := (single.closes place).mpr atEnd
  rcases eq_shortest_or_enclosed single.opens (occurs.suffix atEnd) with short | ⟨inner, apart⟩
  · exact Or.inl short
  · have length := congrArg List.length apart
    simp only [List.length_append] at length
    refine Or.inr ⟨fun early => ?_, single.opens, occurs.suffix atEnd, place, ?_, atEnd⟩
    · obtain ⟨rest, whole⟩ := early
      have inside : OccursAt closing (shortest ++ rest) 2 :=
        (occursAt_append_right rest (by decide)).mpr (by decide)
      rw [whole, single.closes] at inside
      simp only [opening, closing, List.length_cons, List.length_nil] at inside length
      omega
    · refine ⟨by omega, occurs, fun earlier _ less other => ?_⟩
      have same := (single.closes earlier).mp other
      omega

/-! ## The comment found in a file -/

/-- What has no slash before a comment is the gap before it. -/
theorem firstAt_opening (noSlash : '/' ∉ gap) (opens : opening <+: block) :
    FirstAt opening (gap ++ block) 0 gap.length := by
  have here : OccursAt opening block 0 := opens
  refine ⟨Nat.zero_le _, (occursAt_append_left gap).mpr here, ?_⟩
  intro earlier _ less occurs
  have slash : (gap ++ block)[earlier]? = some '/' := occurs.getElem?
  rw [List.getElem?_append_left less] at slash
  exact noSlash (List.mem_of_getElem? slash)

/-- A text with no slash opens no comment. -/
theorem isUnclosed_of_not_mem (noSlash : '/' ∉ text) : IsUnclosed text := by
  refine Or.inl fun place occurs => ?_
  have slash : text[place]? = some '/' := occurs.getElem?
  exact noSlash (List.mem_of_getElem? slash)

/-- The one comment between texts without slashes is found. -/
theorem blocks_between (noSlash : '/' ∉ gap) (isBlock : IsBlock block) (noneAfter : '/' ∉ after) :
    blocks (gap ++ block ++ after) = [⟨1 + newlines gap, block⟩] := by
  have cut : Segmentation (gap ++ block ++ after) [⟨gap, block⟩] after :=
    segmentation_of_segment.mpr ⟨after, rfl, isBlock, firstAt_opening noSlash isBlock.opens,
      segmentation_of_nil.mpr ⟨rfl, isUnclosed_of_not_mem noneAfter⟩⟩
  exact cut.blocksFrom_eq 1

/-- The comment of a text that holds one between blank characters is found on the line behind the
newlines before it. -/
theorem blocks_of_isSingle {single : Text} (trimmed : trim isBlank content = single)
    (isSingle : IsSingle single) :
    blocks content = [⟨1 + newlines (content.takeWhile isBlank), single⟩] := by
  obtain ⟨-, before, after, whole, onlyBefore, onlyAfter⟩ := trim_eq_iff.mp trimmed
  have slash : isBlank '/' = false := by decide
  have noSlash {blanks : Text} (only : ∀ c ∈ blanks, isBlank c) : '/' ∉ blanks := by
    intro member
    rw [only '/' member] at slash
    cases slash
  have gap : content.takeWhile isBlank = before := by
    obtain ⟨rest, opens⟩ := isSingle.opens
    rw [whole, ← opens, List.append_assoc, List.takeWhile_append_of_pos onlyBefore]
    simp [opening, slash]
  rw [gap, whole]
  exact blocks_between (noSlash onlyBefore) isSingle.isBlock (noSlash onlyAfter)

end Comment

/-! ## Both readings -/

/-- The matches of a text that holds one comment: that comment, unless it has no tags and untagged
ones are not wanted. -/
theorem Match.inSource_of_isSingle {content : Text} {tree : Tree}
    (isSingle : Comment.IsSingle (Text.trim Text.isBlank content))
    (parsed : Comment.parseTrimmed content = .ok tree) (path : Path) (includeEmpty : Bool) :
    inSource path includeEmpty content =
      if includeEmpty || !tree.isEmpty then
        [⟨path, 1 + Text.newlines (content.takeWhile Text.isBlank), tree⟩]
      else [] := by
  have found : ofComment path ⟨1 + Text.newlines (content.takeWhile Text.isBlank),
      Text.trim Text.isBlank content⟩ =
      ⟨path, 1 + Text.newlines (content.takeWhile Text.isBlank), tree⟩ := by
    rw [Comment.parseTrimmed] at parsed
    rw [ofComment, parsed]
    rfl
  rw [inSource, Comment.blocks_of_isSingle rfl isSingle, List.map_singleton, found]
  rw [List.filter_cons, List.filter_nil]

namespace FileSystem

open Text

variable {files : FileSystem} {path : Path} {content : Text}

/-- The comment of a file is read as the text of the file is. -/
theorem parseFile_of_readText {tree : Tree} (read : files.readText path = .ok content)
    (parsed : Comment.parseTrimmed content = .ok tree) : files.parseFile path = .ok tree := by
  rw [parseFile, read]
  simp [parsed, Except.mapError, bind, Except.bind]

/-- **One comment.** A file that can be read and holds one comment, closed at its end alone, between
blank characters has a tree, and a scan of the file finds this comment and no other one: with the
same tree, on the line behind the newlines above it, also if untagged comments are not wanted and
the tree is not empty. -/
theorem scanFile_single (read : files.readText path = .ok content)
    (single : Comment.IsSingle (trim isBlank content)) :
    ∃ tree, files.parseFile path = .ok tree ∧
      files.scanFile true path =
        .ok [⟨path, 1 + newlines (content.takeWhile isBlank), tree⟩] ∧
      files.scanFile false path =
        .ok (if tree.isEmpty then []
          else [⟨path, 1 + newlines (content.takeWhile isBlank), tree⟩]) := by
  obtain ⟨tree, parsed⟩ := single.isBlock.exists_parse
  refine ⟨tree, parseFile_of_readText read parsed, ?_, ?_⟩
  · rw [scanFile_of_readText read, Match.inSource_of_isSingle single parsed]
    rfl
  · rw [scanFile_of_readText read, Match.inSource_of_isSingle single parsed]
    cases tree.isEmpty <;> rfl

/-- A comment with more asterisks before its close, in a file with blank lines around it, one of
them with an ideographic space. -/
theorem scanFile_single_of_blank_lines :
    let content : Text := "\n\u3000\n\t/***@a b\n * @c **/\u2028\n".toList
    let memory : Memory :=
      { files := [(⟨['f']⟩, .ok content)], dirs := [], unlistable := [], listingFails := false }
    ∃ tree, memory.fileSystem.parseFile ⟨['f']⟩ = .ok tree ∧
      memory.fileSystem.scanFile true ⟨['f']⟩ = .ok [⟨⟨['f']⟩, 3, tree⟩] ∧
      memory.fileSystem.scanFile false ⟨['f']⟩ =
        .ok (if tree.isEmpty then [] else [⟨⟨['f']⟩, 3, tree⟩]) := by
  intro content memory
  have read : memory.fileSystem.readText ⟨['f']⟩ = .ok content := rfl
  have trimmed : trim isBlank content = "/***@a b\n * @c **/".toList := by decide
  have single : Comment.IsSingle (trim isBlank content) := by
    rw [trimmed]
    decide
  have line : 1 + newlines (content.takeWhile isBlank) = 3 := by decide
  have readings := scanFile_single read single
  rw [line] at readings
  exact readings

end FileSystem

end DocTags
