/-
# Line endings

Whether the lines of a text end in newlines or in carriage returns and newlines is not seen by
anything that reads comments: not by a parse, which gives the same tree or the same refusal, not by
the search for comments, which finds the same ones on the same lines, and so not by a scan of a file
or of a directory in which some files have the one and some the other.
-/

import DocTags.Proofs.Comment.Returns
import DocTags.Proofs.Scan.SingleComment

namespace DocTags

theorem Comment.blocks_withReturns (source : Text) :
    blocks (Text.withReturns source) = (blocks source).map Block.withReturns :=
  blocksFrom_withReturns 1 source

namespace Match

/-- A comment with carriage returns has the same match. -/
theorem ofComment_withReturns (path : Path) (block : Comment.Block) :
    ofComment path block.withReturns = ofComment path block := by
  rw [ofComment, ofComment, Comment.Block.withReturns, Comment.parse_withReturns]

/-- A source text with carriage returns has the same matches. -/
theorem inSource_withReturns (path : Path) (includeEmpty : Bool) (source : Text) :
    inSource path includeEmpty (Text.withReturns source) = inSource path includeEmpty source := by
  have same : ofComment path ∘ Comment.Block.withReturns = ofComment path :=
    funext (ofComment_withReturns path)
  rw [inSource, inSource, Comment.blocks_withReturns, List.map_map, same]

end Match

namespace FileSystem

/-- Two file systems differ in the line endings of some files at most. -/
structure SameUpToReturns (files other : FileSystem) : Prop where
  isFile : ∀ path, other.isFile path = files.isFile path
  isDir : ∀ path, other.isDir path = files.isDir path
  readText : ∀ path, other.readText path = files.readText path ∨
    other.readText path = (files.readText path).map Text.withReturns
  list : ∀ path, other.list path = files.list path

variable {files other : FileSystem} {path : Path}

/-- A file with carriage returns is scanned alike. -/
theorem scanFile_withReturns
    (read : other.readText path = (files.readText path).map Text.withReturns)
    (includeEmpty : Bool) :
    other.scanFile includeEmpty path = files.scanFile includeEmpty path := by
  cases content : files.readText path with
  | error cause =>
      rw [content] at read
      rw [scanFile_of_not_readText content, scanFile_of_not_readText read]
  | ok source =>
      rw [content] at read
      rw [scanFile_of_readText content, scanFile_of_readText read, Match.inSource_withReturns]

theorem SameUpToReturns.scanFile (alike : files.SameUpToReturns other) (includeEmpty : Bool) :
    other.scanFile includeEmpty = files.scanFile includeEmpty := by
  funext path
  rcases alike.readText path with same | returns
  · rw [FileSystem.scanFile, FileSystem.scanFile, same]
  · exact scanFile_withReturns returns includeEmpty

/-- A scan does not see the line endings of files. -/
theorem SameUpToReturns.scan (alike : files.SameUpToReturns other) (settings : ScanSettings)
    (path : Path) : other.scan settings path = files.scan settings path := by
  rw [FileSystem.scan, FileSystem.scan, scanDirectory, scanDirectory, alike.isFile, alike.isDir,
    alike.list, alike.scanFile]

end FileSystem

/-- **Line endings.** With a carriage return before each newline, every text is parsed into the same
tree or refused for the same delimiter; the same comments are found in every source text, with
carriage returns in them and on the same lines; every file is scanned alike, with and without
untagged comments; and so is every directory, whichever of its files have carriage returns. -/
theorem lineEndings_unseen :
    (∀ text, Comment.parse (Text.withReturns text) = Comment.parse text) ∧
      (∀ source, Comment.blocks (Text.withReturns source) =
        (Comment.blocks source).map fun block => ⟨block.line, Text.withReturns block.text⟩) ∧
      (∀ (files other : FileSystem) (path : Path),
        other.readText path = (files.readText path).map Text.withReturns →
          ∀ includeEmpty, other.scanFile includeEmpty path = files.scanFile includeEmpty path) ∧
      ∀ files other : FileSystem, files.SameUpToReturns other →
        ∀ settings path, other.scan settings path = files.scan settings path :=
  ⟨Comment.parse_withReturns, Comment.blocks_withReturns,
    fun _ _ _ => FileSystem.scanFile_withReturns, fun _ _ alike => alike.scan⟩

/-- One file in memory. -/
def Memory.ofFile (content : Text) : Memory where
  files := [(⟨['f']⟩, .ok content)]
  dirs := []
  unlistable := []
  listingFails := false

theorem sameUpToReturns_ofFile (content : Text) :
    (Memory.ofFile content).fileSystem.SameUpToReturns
      (Memory.ofFile (Text.withReturns content)).fileSystem := by
  refine ⟨fun path => ?_, fun path => ?_, fun path => Or.inr ?_, fun path => rfl⟩
  · simp only [Memory.fileSystem, Memory.file?, Memory.ofFile, List.find?_cons, List.find?_nil]
    cases Path.same ⟨['f']⟩ path <;> rfl
  · simp only [Memory.fileSystem, Memory.ofFile, List.any_cons, List.any_nil]
  · simp only [Memory.fileSystem, Memory.file?, Memory.ofFile, List.find?_cons, List.find?_nil]
    cases Path.same ⟨['f']⟩ path <;> rfl

/-- A comment with carriage returns in a key, at the end of a line, and behind an asterisk, where it
makes the line none of a tag: with more of them in the file, the same is found on the same line. -/
theorem lineEndings_unseen_of_file :
    let content : Text := "x\n/** @k\r v\r\n *\r@no\n * @l*/\n".toList
    let report : Report :=
      ⟨1, 0, [⟨⟨['f']⟩, 2, Comment.treeOf [⟨['k', '\r'], ['v']⟩, ⟨['l'], []⟩]⟩]⟩
    (Memory.ofFile content).fileSystem.scan {} ⟨['f']⟩ = .ok report ∧
      (Memory.ofFile (Text.withReturns content)).fileSystem.scan {} ⟨['f']⟩ = .ok report := by
  intro content report
  have unseen := lineEndings_unseen.2.2.2 _ _ (sameUpToReturns_ofFile content) {} ⟨['f']⟩
  have block : Comment.IsSingle "/** @k\r v\r\n *\r@no\n * @l*/".toList := by decide
  have found : Comment.blocks content = [⟨2, "/** @k\r v\r\n *\r@no\n * @l*/".toList⟩] :=
    Comment.blocks_between (show '/' ∉ ['x', '\n'] by decide) block.isBlock
      (show '/' ∉ ['\n'] by decide)
  have scanned : (Memory.ofFile content).fileSystem.scan {} ⟨['f']⟩ = .ok report := by
    have read : (Memory.ofFile content).fileSystem.readText ⟨['f']⟩ = .ok content := rfl
    have file : (Memory.ofFile content).fileSystem.isFile ⟨['f']⟩ = true := rfl
    rw [FileSystem.scan, if_pos file, FileSystem.scanFile_of_readText read, Match.inSource, found]
    rfl
  exact ⟨scanned, unseen.trans scanned⟩

end DocTags
