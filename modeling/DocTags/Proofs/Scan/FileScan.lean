/-
# The scan of a file

A scan of a file fails just if the file cannot be read, and with the fault of reading it. Whatever
its text is, every comment that is found there parses. So a comment is either among the matches or
left out for having no tags, which is seen from its tree: the tree of a comment is empty just if no
line of the comment is that of a tag.
-/

import DocTags.Files.Memory
import DocTags.Proofs.Scan.Matches
import DocTags.Proofs.Tree.Lookup
import Mathlib.Data.List.Forall2

namespace DocTags

/-! ## Comments without tags -/

namespace Comment

/-- The tree of some tags is empty just if there are none. -/
theorem isEmpty_treeOf (tags : List Tag) : (treeOf tags).isEmpty = tags.isEmpty := by
  rcases List.eq_nil_or_concat' tags with rfl | ⟨before, last, rfl⟩
  · rfl
  · rw [treeOf, List.foldl_append, List.foldl_cons, List.foldl_nil, Tree.isEmpty_insert]
    simp

/-- Whether a comment has no line that is a tag. -/
def Block.isUntagged (block : Block) : Bool :=
  match body block.text with
  | .ok inner => (Tag.ofBody inner).isEmpty
  | .error _ => false

/-- The tree of a comment without tags, and of no other, is empty. -/
theorem isEmpty_of_parse {block : Block} {tree : Tree} (parsed : parse block.text = .ok tree) :
    tree.isEmpty = block.isUntagged := by
  obtain ⟨inner, read, rfl⟩ := parse_eq_ok_iff.mp parsed
  rw [isEmpty_treeOf, Block.isUntagged, read]

end Comment

/-! ## Matches -/

namespace Match

/-- The match of a comment has its tree. -/
theorem parse_eq_ofComment {block : Comment.Block} (isBlock : Comment.IsBlock block.text)
    (path : Path) : Comment.parse block.text = .ok (ofComment path block).tags := by
  obtain ⟨tree, parsed⟩ := isBlock.exists_parse
  rw [ofComment, parsed]
  rfl

/-- The matches of a source text are those of its comments, without the untagged ones unless they
are wanted. -/
theorem inSource_eq_map (path : Path) (includeEmpty : Bool) (source : Text) :
    inSource path includeEmpty source =
      ((Comment.blocks source).filter fun block => includeEmpty || !block.isUntagged).map
        (ofComment path) := by
  rw [inSource, List.filter_map]
  refine congrArg (List.map _) (List.filter_congr fun block member => ?_)
  have parsed := parse_eq_ofComment (Comment.isBlock_of_mem_blocks member) path
  rw [Function.comp_apply, Comment.isEmpty_of_parse parsed]

end Match

namespace FileSystem

/-- **Scanning a file.** Every comment that is found in a source text parses. So the scan of a file
fails just if the file cannot be read, with the fault of reading it as source; and otherwise it has
a match for each comment, in their order, with the path of the file and the line and the tree of the
comment, except for the comments without tags if they are not wanted. The matches and the comments
that are left out are together as many as the comments. -/
theorem scanFile_fails_iff_unread :
    (∀ source, ∀ block ∈ Comment.blocks source, ∃ tree, Comment.parse block.text = .ok tree) ∧
      ∀ (files : FileSystem) (path : Path) (includeEmpty : Bool),
        (∀ fault, files.scanFile includeEmpty path = .error fault ↔
          ∃ cause, files.readText path = .error cause ∧
            fault = .failed ("read source file: ".toList ++ path.text) cause) ∧
        ∀ source, files.readText path = .ok source →
          ∃ found, files.scanFile includeEmpty path = .ok found ∧
            List.Forall₂ (fun block candidate => candidate.path = path ∧
                candidate.line = block.line ∧ Comment.parse block.text = .ok candidate.tags)
              ((Comment.blocks source).filter fun block => includeEmpty || !block.isUntagged)
              found ∧
            found.length +
                ((Comment.blocks source).filter fun block =>
                  !includeEmpty && block.isUntagged).length =
              (Comment.blocks source).length := by
  refine ⟨fun source block member => (Comment.isBlock_of_mem_blocks member).exists_parse,
    fun files path includeEmpty => ⟨fun fault => ?_, fun source read => ?_⟩⟩
  · cases read : files.readText path with
    | ok source => simp [scanFile_of_readText read]
    | error cause => simp [scanFile_of_not_readText read, Fault.onPath, eq_comm]
  · refine ⟨_, scanFile_of_readText read, ?_, ?_⟩
    · rw [Match.inSource_eq_map, List.forall₂_map_right_iff, List.forall₂_same]
      intro block member
      have found := (List.mem_filter.mp member).1
      exact ⟨rfl, rfl, Match.parse_eq_ofComment (Comment.isBlock_of_mem_blocks found) path⟩
    · have both := List.length_eq_length_filter_add (l := Comment.blocks source)
        fun block => includeEmpty || !block.isUntagged
      simp only [Bool.not_or, Bool.not_not] at both
      rw [Match.inSource_eq_map, List.length_map, ← both]

/-- Two untagged comments and a tagged one in a file, and a file that is not text. -/
theorem scanFile_fails_iff_unread_of_memory :
    let memory : Memory :=
      { files := [(⟨['f']⟩, .ok "/**//***/ /** @k v */".toList), (⟨['g']⟩, .error .invalidData)]
        dirs := []
        unlistable := []
        listingFails := false }
    memory.fileSystem.scanFile false ⟨['g']⟩ =
        .error (.failed "read source file: g".toList .invalidData) ∧
      (∃ tree, Comment.parse "/***/".toList = .ok tree) ∧
      ∃ found, memory.fileSystem.scanFile false ⟨['f']⟩ = .ok found ∧ found.length + 2 = 3 := by
  intro memory
  have cut : Comment.Segmentation "/**//***/ /** @k v */".toList
      [⟨[], Comment.shortest⟩, ⟨[], "/***/".toList⟩, ⟨[' '], "/** @k v */".toList⟩] [] := by
    decide
  have blocks : Comment.blocks "/**//***/ /** @k v */".toList =
      [⟨1, Comment.shortest⟩, ⟨1, "/***/".toList⟩, ⟨1, "/** @k v */".toList⟩] :=
    cut.blocksFrom_eq 1
  obtain ⟨parses, scans⟩ := scanFile_fails_iff_unread
  have second : ⟨1, "/***/".toList⟩ ∈ Comment.blocks "/**//***/ /** @k v */".toList := by
    rw [blocks]
    exact List.mem_cons_of_mem _ List.mem_cons_self
  obtain ⟨found, scanned, -, counted⟩ :=
    (scans memory.fileSystem ⟨['f']⟩ false).2 "/**//***/ /** @k v */".toList rfl
  rw [blocks] at counted
  exact ⟨((scans memory.fileSystem ⟨['g']⟩ false).1 _).mpr ⟨_, rfl, rfl⟩, parses _ _ second, found,
    scanned, counted⟩

end FileSystem

end DocTags
