/-
# Untagged comments

Whether untagged comments are wanted decides about these comments alone. A scan without them fails
just if the scan with them does; otherwise the same files are counted, and the report has the same
matches except for those whose tree is empty. The matches of a scan with untagged comments are those
of all comments in its files, and the tree of a comment is empty just if no line of the comment
writes a tag.
-/

import DocTags.Proofs.Comment.TagLine
import DocTags.Proofs.Scan.FileScan
import DocTags.Proofs.Scan.Outcome

namespace DocTags

/-! ## Comments with a tag -/

namespace Comment

/-- A comment has a tag if a line between its delimiters writes one. -/
def Block.HasTag (block : Block) : Prop :=
  ∃ inner, Holds block.text inner ∧
    ∃ line ∈ Text.splitOn '\n' inner, ∃ key value, Tag.IsLine line key value

/-- No tag is read from a body just if no line of it writes one. -/
theorem ofBody_eq_nil_iff {inner : Text} :
    Tag.ofBody inner = [] ↔
      ∀ line ∈ Text.splitOn '\n' inner, ∀ key value, ¬ Tag.IsLine line key value := by
  rw [Tag.ofBody, List.filterMap_eq_nil_iff]
  refine forall₂_congr fun line _ => ?_
  rw [Option.eq_none_iff_forall_ne_some]
  refine ⟨fun never key value writes => ?_, fun never tag read => ?_⟩
  · exact never ⟨key, value⟩ (Tag.ofLine?_eq_some_iff_isLine.mpr writes)
  · exact never tag.key tag.value (Tag.ofLine?_eq_some_iff_isLine.mp read)

/-- The tree of a comment is empty just if the comment has no tag. -/
theorem isEmpty_iff_not_hasTag {block : Block} {tree : Tree}
    (parsed : parse block.text = .ok tree) : tree.isEmpty = true ↔ ¬ block.HasTag := by
  obtain ⟨inner, read, rfl⟩ := parse_eq_ok_iff.mp parsed
  have holds := body_eq_ok_iff.mp read
  rw [isEmpty_treeOf, List.isEmpty_iff, ofBody_eq_nil_iff]
  constructor
  · rintro never ⟨other, held, line, member, key, value, writes⟩
    obtain rfl := held.unique holds
    exact never line member key value writes
  · intro untagged line member key value writes
    exact untagged ⟨inner, holds, line, member, key, value, writes⟩

end Comment

/-! ## Scans with and without untagged comments -/

namespace Match

/-- A match reports a comment of a file. -/
structure IsOf (found : Match) (file : Path) (block : Comment.Block) : Prop where
  path : found.path = file
  line : found.line = block.line
  tags : Comment.parse block.text = .ok found.tags

end Match

namespace FileSystem

variable {files : FileSystem} {path : Path}

/-- A comment stands in a file that can be read. -/
def HasComment (files : FileSystem) (file : Path) (block : Comment.Block) : Prop :=
  ∃ source, files.readText file = .ok source ∧ block ∈ Comment.blocks source

/-- Without untagged comments the matches of a file are those with a tag. -/
theorem matchesIn_false (files : FileSystem) (path : Path) :
    files.matchesIn false path =
      (files.matchesIn true path).filter fun found => !found.tags.isEmpty := by
  cases read : files.readText path with
  | error cause => simp [matchesIn, scanFile_of_not_readText read, Except.toOption]
  | ok source =>
      rw [matchesIn_of_scanFile (scanFile_of_readText read),
        matchesIn_of_scanFile (scanFile_of_readText read)]
      simp [Match.inSource]

/-- With untagged comments the matches of some files are those of all their comments, which are
read there. -/
theorem exists_comments (files : FileSystem) (paths : List Path) :
    ∃ comments : List (Path × Comment.Block),
      (∀ comment ∈ comments, files.HasComment comment.1 comment.2) ∧
        paths.flatMap (files.matchesIn true) =
          comments.map fun comment => Match.ofComment comment.1 comment.2 := by
  induction paths with
  | nil => exact ⟨[], by simp, rfl⟩
  | cons path paths ih =>
      obtain ⟨later, inFiles, sameLater⟩ := ih
      cases read : files.readText path with
      | error cause =>
          have unread : files.isReadable path = false := by rw [isReadable, read]; rfl
          refine ⟨later, inFiles, ?_⟩
          rw [List.flatMap_cons, matchesIn_of_not_isReadable true unread, sameLater]
          rfl
      | ok source =>
          have here : files.matchesIn true path =
              (Comment.blocks source).map (Match.ofComment path) := by
            rw [matchesIn_of_scanFile (scanFile_of_readText read), Match.inSource]
            simp
          refine ⟨(Comment.blocks source).map (path, ·) ++ later, ?_, ?_⟩
          · intro comment member
            rcases List.mem_append.mp member with first | second
            · obtain ⟨block, inSource, rfl⟩ := List.mem_map.mp first
              exact ⟨source, read, inSource⟩
            · exact inFiles comment second
          · rw [List.flatMap_cons, here, sameLater, List.map_append, List.map_map]
            rfl

/-- Without untagged comments a scan reports the same, except for the matches without tags. -/
theorem Reports.without_untagged {extensions : List Text} {whole : Report}
    (reports : files.Reports ⟨extensions, true⟩ path whole) :
    files.Reports ⟨extensions, false⟩ path
      ⟨whole.filesScanned, whole.filesSkipped,
        whole.found.filter fun found => !found.tags.isEmpty⟩ := by
  cases reports with
  | file file read =>
      dsimp only
      rw [← matchesIn_false]
      exact .file file read
  | directory noFile dir listed =>
      dsimp only
      rw [List.filter_flatMap]
      simp only [← matchesIn_false]
      exact .directory noFile dir listed

/-- The matches of a scan that wants untagged comments are those of comments of some files. -/
theorem Reports.exists_comments {extensions : List Text} {whole : Report}
    (reports : files.Reports ⟨extensions, true⟩ path whole) :
    ∃ comments : List (Path × Comment.Block),
      (∀ comment ∈ comments, files.HasComment comment.1 comment.2) ∧
        whole.found = comments.map fun comment => Match.ofComment comment.1 comment.2 := by
  cases reports with
  | file file read => simpa using files.exists_comments [path]
  | directory noFile dir listed => exact files.exists_comments _

/-- **Untagged comments.** A scan fails without untagged comments just if it fails with them, and
with the same fault. Otherwise it counts the same files, and reports the same matches in the same
order except for those without tags. With them, the matches are those of comments in the files, each
with its path, its line and its tree, and a match has no tags just if no line of its comment writes
one. -/
theorem scan_without_untagged (files : FileSystem) (extensions : List Text) (path : Path) :
    (∀ fault, files.scan ⟨extensions, false⟩ path = .error fault ↔
        files.scan ⟨extensions, true⟩ path = .error fault) ∧
      ∀ whole, files.scan ⟨extensions, true⟩ path = .ok whole →
        files.scan ⟨extensions, false⟩ path =
            .ok ⟨whole.filesScanned, whole.filesSkipped,
              whole.found.filter fun found => !found.tags.isEmpty⟩ ∧
          ∃ comments : List (Path × Comment.Block),
            List.Forall₂ (fun comment found => files.HasComment comment.1 comment.2 ∧
                found.IsOf comment.1 comment.2 ∧
                (found.tags.isEmpty = true ↔ ¬ comment.2.HasTag))
              comments whole.found := by
  refine ⟨fun fault => scan_eq_error_iff.trans scan_eq_error_iff.symm, fun whole scanned => ?_⟩
  have reports := scan_eq_ok_iff.mp scanned
  obtain ⟨comments, inFiles, found⟩ := reports.exists_comments
  refine ⟨reports.without_untagged.scan, comments, ?_⟩
  rw [found, List.forall₂_map_right_iff, List.forall₂_same]
  intro comment member
  obtain ⟨source, read, inSource⟩ := inFiles comment member
  have parsed := Match.parse_eq_ofComment (Comment.isBlock_of_mem_blocks inSource) comment.1
  exact ⟨⟨source, read, inSource⟩, ⟨rfl, rfl, parsed⟩, Comment.isEmpty_iff_not_hasTag parsed⟩

/-- The shortest comment and a tagged one in a file: without untagged comments the first is dropped.
Where there is no file, both scans fail alike. -/
theorem scan_without_untagged_of_shortest :
    let memory : Memory :=
      { files := [(⟨['f']⟩, .ok "/**//** @k v */".toList)]
        dirs := []
        unlistable := []
        listingFails := false }
    let tagged : Match := ⟨⟨['f']⟩, 1, Comment.treeOf [⟨['k'], ['v']⟩]⟩
    memory.fileSystem.scan ⟨[], true⟩ ⟨['f']⟩ =
        .ok ⟨1, 0, [⟨⟨['f']⟩, 1, Tree.empty⟩, tagged]⟩ ∧
      memory.fileSystem.scan ⟨[], false⟩ ⟨['f']⟩ = .ok ⟨1, 0, [tagged]⟩ ∧
      memory.fileSystem.scan ⟨[], false⟩ ⟨['g']⟩ =
        .error (.failed "path not found: g".toList .notFound) := by
  intro memory tagged
  have cut : Comment.Segmentation "/**//** @k v */".toList
      [⟨[], Comment.shortest⟩, ⟨[], "/** @k v */".toList⟩] [] := by
    decide
  have blocks : Comment.blocks "/**//** @k v */".toList =
      [⟨1, Comment.shortest⟩, ⟨1, "/** @k v */".toList⟩] :=
    cut.blocksFrom_eq 1
  have read : memory.fileSystem.readText ⟨['f']⟩ = .ok "/**//** @k v */".toList := rfl
  have file : memory.fileSystem.isFile ⟨['f']⟩ = true := rfl
  have whole : memory.fileSystem.scan ⟨[], true⟩ ⟨['f']⟩ =
      .ok ⟨1, 0, [⟨⟨['f']⟩, 1, Tree.empty⟩, tagged]⟩ := by
    rw [FileSystem.scan, if_pos file, scanFile_of_readText read, Match.inSource, blocks]
    rfl
  have missing := (scan_without_untagged memory.fileSystem [] ⟨['g']⟩).1
  exact ⟨whole, ((scan_without_untagged memory.fileSystem [] ⟨['f']⟩).2 _ whole).1,
    (missing _).mpr rfl⟩

end FileSystem

end DocTags
