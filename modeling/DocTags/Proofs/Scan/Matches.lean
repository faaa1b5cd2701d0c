/-
# Matches of a source file

A file is scanned whenever it can be read: all comments that are found in it parse, so that nothing
in its text makes the scan fail. Its matches are its comments in their order, all under its path,
without the untagged ones unless they are wanted.
-/

import DocTags.Proofs.Comment.Lines
import DocTags.Scan.Report

namespace DocTags

/-- Items that give nothing can be left out before all results are put together. -/
theorem flatMap_filter_of_nil {α β : Type} {p : α → Bool} {f : α → List β} {items : List α}
    (nothing : ∀ item ∈ items, p item = false → f item = []) :
    (items.filter p).flatMap f = items.flatMap f := by
  induction items with
  | nil => rfl
  | cons item items ih =>
      obtain ⟨here, later⟩ := List.forall_mem_cons.mp nothing
      rw [List.flatMap_cons, ← ih later]
      cases kept : p item with
      | true => rw [List.filter_cons_of_pos kept, List.flatMap_cons]
      | false => rw [List.filter_cons_of_neg (by simp [kept]), here kept, List.nil_append]

namespace Match

/-- The match of a comment that parses. -/
def ofComment (path : Path) (block : Comment.Block) : Match :=
  ⟨path, block.line, (Comment.parse block.text).toOption.getD Tree.empty⟩

theorem ofBlock_eq_ok {block : Comment.Block} (isBlock : Comment.IsBlock block.text)
    (path : Path) : ofBlock path block = .ok (ofComment path block) := by
  obtain ⟨tree, parsed⟩ := isBlock.exists_parse
  rw [ofBlock, ofComment, parsed]
  rfl

theorem mapM_ofBlock {blocks : List Comment.Block} (path : Path)
    (all : ∀ block ∈ blocks, Comment.IsBlock block.text) :
    blocks.mapM (ofBlock path) = .ok (blocks.map (ofComment path)) := by
  induction blocks with
  | nil => rfl
  | cons block blocks ih =>
      obtain ⟨first, rest⟩ := List.forall_mem_cons.mp all
      rw [List.mapM_cons, ofBlock_eq_ok first, ih rest]
      rfl

/-- The matches of the comments of a source text. -/
def inSource (path : Path) (includeEmpty : Bool) (source : Text) : List Match :=
  ((Comment.blocks source).map (ofComment path)).filter fun candidate =>
    includeEmpty || !candidate.tags.isEmpty

/-- A source text is scanned for the matches of its comments. -/
theorem ofSource_eq_ok (path : Path) (includeEmpty : Bool) (source : Text) :
    ofSource path includeEmpty source = .ok (inSource path includeEmpty source) := by
  rw [ofSource, mapM_ofBlock path fun block => Comment.isBlock_of_mem_blocks]
  rfl

theorem path_of_mem_inSource {path : Path} {includeEmpty : Bool} {source : Text}
    {candidate : Match} (member : candidate ∈ inSource path includeEmpty source) :
    candidate.path = path := by
  obtain ⟨block, -, rfl⟩ := List.mem_map.mp (List.mem_filter.mp member).1
  rfl

theorem pairwise_line_inSource (path : Path) (includeEmpty : Bool) (source : Text) :
    (inSource path includeEmpty source).Pairwise fun first later => first.line ≤ later.line :=
  List.Pairwise.filter _ (List.pairwise_map.mpr (Comment.pairwise_line_blocks source))

end Match

namespace FileSystem

variable {files : FileSystem} {includeEmpty : Bool} {path : Path}

/-- A file that is read is scanned for the matches of its text. -/
theorem scanFile_of_readText {source : Text} (read : files.readText path = .ok source) :
    files.scanFile includeEmpty path = .ok (Match.inSource path includeEmpty source) := by
  rw [scanFile, read, Except.mapError]
  exact congrArg (Except.mapError _) (Match.ofSource_eq_ok path includeEmpty source)

/-- A file that is not read is not scanned. -/
theorem scanFile_of_not_readText {cause : IoFault} (refused : files.readText path = .error cause) :
    files.scanFile includeEmpty path =
      .error (Fault.onPath "read source file".toList path cause) := by
  rw [scanFile, refused]
  rfl

/-- What a scan of a file finds are the matches of its text. -/
theorem scanFile_eq_ok_iff {found : List Match} :
    files.scanFile includeEmpty path = .ok found ↔
      ∃ source, files.readText path = .ok source ∧
        Match.inSource path includeEmpty source = found := by
  cases read : files.readText path with
  | ok source => simp [scanFile_of_readText read]
  | error cause => simp [scanFile_of_not_readText read]

/-- A file is scanned exactly when it is read. -/
theorem isOk_scanFile (files : FileSystem) (includeEmpty : Bool) (path : Path) :
    (files.scanFile includeEmpty path).isOk = (files.readText path).isOk := by
  cases read : files.readText path with
  | ok source =>
      rw [scanFile_of_readText read]
      rfl
  | error cause =>
      rw [scanFile_of_not_readText read]
      rfl

end FileSystem

end DocTags
