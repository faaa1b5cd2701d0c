/-
# Scanning

All doc comments of a file, or of every file below a directory that has one of the wanted
extensions. Files are taken in path order, whatever the order in which the directory lists them.
Files and entries of a directory that cannot be read are counted and passed over; a single file
that cannot be read is a fault.
-/

import DocTags.Comment.Block
import DocTags.Fault
import DocTags.Settings.Basic

namespace DocTags

/-- A comment that was found: its file, the line on which it opens, and its tags. -/
structure Match where
  path : Path
  line : Nat
  tags : Tree

/-- What a scan found, in path order and then in line order. -/
structure Report where
  filesScanned : Nat
  filesSkipped : Nat
  found : List Match

namespace Comment.Malformed

/-- The fault of a text that is not a doc comment. -/
def fault (malformed : Malformed) : Fault :=
  .notDocComment malformed.message

end Comment.Malformed

namespace Match

/-- The match of a comment in a file. -/
def ofBlock (path : Path) (block : Comment.Block) : Except Comment.Malformed Match := do
  let tags ← Comment.parse block.text
  return ⟨path, block.line, tags⟩

/-- The matches of a source text. Comments without tags are left out unless they are wanted. -/
def ofSource (path : Path) (includeEmpty : Bool) (source : Text) :
    Except Comment.Malformed (List Match) := do
  let found ← (Comment.blocks source).mapM (ofBlock path)
  return found.filter fun candidate => includeEmpty || !candidate.tags.isEmpty

end Match

/-- Whether an extension is meant by one of the wanted ones, which may have dots in front and
letters of either case. -/
def Path.hasExtension (wanted : List Text) (path : Path) : Bool :=
  match path.extension? with
  | none => false
  | some extension =>
    wanted.any fun want => Text.equalIgnoringCase (want.dropWhile (· == '.')) extension

namespace FileSystem

/-- The tree of a file that holds one doc comment. -/
def parseFile (files : FileSystem) (path : Path) : Except Fault Tree := do
  let text ← (files.readText path).mapError (Fault.onPath "read doc comment".toList path)
  (Comment.parseTrimmed text).mapError (·.fault)

/-- The matches of a source file. -/
def scanFile (files : FileSystem) (includeEmpty : Bool) (path : Path) :
    Except Fault (List Match) := do
  let source ← (files.readText path).mapError (Fault.onPath "read source file".toList path)
  (Match.ofSource path includeEmpty source).mapError (·.fault)

/-- The results of several files in one report, on top of the entries that could not be read. -/
def tally (unreadable : Nat) (results : List (Except Fault (List Match))) : Report where
  filesScanned := results.countP (·.isOk)
  filesSkipped := unreadable + results.countP (!·.isOk)
  found := results.flatMap fun result =>
    match result with
    | .ok found => found
    | .error _ => []

/-- The report of a directory. -/
def scanDirectory (files : FileSystem) (settings : ScanSettings) (path : Path) :
    Except Fault Report := do
  let listing ← (files.list path).mapError (Fault.onPath "list directory".toList path)
  let wanted := listing.files.filter (Path.hasExtension settings.extensions)
  let sorted := wanted.mergeSort Path.le
  return tally listing.unreadable.length (sorted.map (files.scanFile settings.includeEmpty))

/-- The report of a file or a directory. -/
def scan (files : FileSystem) (settings : ScanSettings) (path : Path) : Except Fault Report :=
  if files.isFile path then do
    let found ← files.scanFile settings.includeEmpty path
    return ⟨1, 0, found⟩
  else if files.isDir path then files.scanDirectory settings path
  else .error (Fault.onPath "path not found".toList path .notFound)

end FileSystem

end DocTags
