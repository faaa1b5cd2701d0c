/-
# Disks

A disk holds directories, files and symbolic links by their place below the root. A path is
resolved piece by piece from the root or from a working directory: links are followed, also several
in a row, and anything but a directory ends the walk if pieces are left, be it an empty one behind
a slash.

A listing goes down from a directory and shows its regular files. A link given as the directory is
followed, links below it are passed over. There are limits to the length of a path, to the length
of a name, and to the number of links that a path leads through.
-/

import DocTags.Files.FileSystem
import DocTags.Text.Utf8

namespace DocTags

/-- A place on a disk: the names that lead to it from the root. -/
abbrev Place := List Text

/-- What stands at a place. -/
inductive DiskEntry where
  | dir
  | file (content : ByteArray)
  | link (target : Path)

/-- The entries of a disk by their places, in which later ones replace earlier ones. The root is
always a directory. -/
structure Disk where
  entries : List (Place × DiskEntry)

namespace Disk

/-- The disk with nothing but its root. -/
def empty : Disk :=
  ⟨[]⟩

/-- What stands at a place. -/
def entry? (disk : Disk) (place : Place) : Option DiskEntry :=
  if place = [] then some .dir else disk.entries.lookup place

/-- The disk with an entry at a place. -/
def set (place : Place) (entry : DiskEntry) (disk : Disk) : Disk :=
  ⟨(place, entry) :: disk.entries.filter fun other => other.1 != place⟩

/-- The disk with directories at a place and above it, where nothing stood. -/
def makeDir (place : Place) (disk : Disk) : Disk :=
  (List.range (place.length + 1)).foldl
    (fun disk names =>
      let above := place.take names
      if (disk.entry? above).isSome then disk else disk.set above .dir)
    disk

/-- The disk with an entry at a place and directories above it. -/
def put (place : Place) (entry : DiskEntry) (disk : Disk) : Disk :=
  (disk.makeDir place.dropLast).set place entry

/-- Whether a path is longer than the system takes, which ends it with a zero byte in 4096. -/
def isTooLong (path : Path) : Bool :=
  4096 ≤ Text.utf8Size path.text

/-- How many links one path may lead through. -/
def linkLimit : Nat :=
  40

/-- Follow pieces of a path from a place. The last piece is left alone if it is a link and
`followLast` does not hold. -/
def walk (disk : Disk) (followLast : Bool) (links : Nat) (place : Place) (pieces : List Text) :
    Except IoFault (Place × DiskEntry) :=
  match disk.entry? place with
  | none => .error .notFound
  | some entry =>
    match pieces with
    | [] => .ok (place, entry)
    | piece :: rest =>
      match entry with
      | .dir =>
        if piece = [] ∨ piece = ['.'] then walk disk followLast links place rest
        else if piece = ['.', '.'] then walk disk followLast links place.dropLast rest
        else if 255 < Text.utf8Size piece then .error .nameTooLong
        else
          match disk.entry? (place ++ [piece]) with
          | some (.link target) =>
            if rest = [] ∧ !followLast then .ok (place ++ [piece], .link target)
            else
              match links with
              | 0 => .error .linkLoop
              | links + 1 =>
                walk disk followLast links (if target.isAbsolute then [] else place)
                  (Text.splitOn '/' target.text ++ rest)
          | _ => walk disk followLast links (place ++ [piece]) rest
      | _ => .error .notADirectory
termination_by (links, pieces.length)

/-- The place and the entry that a path leads to. -/
def resolve (disk : Disk) (workingDir : Place) (followLast : Bool) (path : Path) :
    Except IoFault (Place × DiskEntry) :=
  if path.text = [] then .error .notFound
  else if '\x00' ∈ path.text then .error .invalidPath
  else if isTooLong path then .error .nameTooLong
  else
    walk disk followLast linkLimit (if path.isAbsolute then [] else workingDir)
      (Text.splitOn '/' path.text)

/-- The entries below a place with their paths as seen from a path. What is in a directory is seen
unless the path of the directory is too long. -/
def entriesBelow (disk : Disk) (place : Place) (path : Path) : List (Path × DiskEntry) :=
  let seenFrom (names : List Text) : Path :=
    if names = [] then path else path.join ⟨Text.joinWith ['/'] names⟩
  disk.entries.filterMap fun (other, entry) =>
    match place.isPrefixOf? other with
    | some (name :: names) =>
      if isTooLong (seenFrom (name :: names).dropLast) then none
      else some (seenFrom (name :: names), entry)
    | _ => none

/-- The listing of a directory: the regular files below it, and the directories that cannot be
read because their paths are too long. -/
def listBelow (disk : Disk) (place : Place) (path : Path) : Listing :=
  let below := disk.entriesBelow place path
  { files := below.filterMap fun (path, entry) =>
      match entry with
      | .file _ => some path
      | _ => none
    unreadable := below.filterMap fun (path, entry) =>
      match entry with
      | .dir => if isTooLong path then some path else none
      | _ => none }

/-- The listing of a path: that of a directory or of the directory that a link leads to, and a
regular file by itself. -/
def list (disk : Disk) (workingDir : Place) (path : Path) : Except IoFault Listing := do
  match ← disk.resolve workingDir false path with
  | (_, .file _) => return ⟨[path], []⟩
  | (place, .dir) => return disk.listBelow place path
  | (_, .link _) =>
    match ← disk.resolve workingDir true path with
    | (place, .dir) => return disk.listBelow place path
    | _ => return ⟨[], []⟩

/-- The disk as a file system, seen from a working directory. -/
def fileSystem (disk : Disk) (workingDir : Place) : FileSystem where
  isFile path :=
    match disk.resolve workingDir true path with
    | .ok (_, .file _) => true
    | _ => false
  isDir path :=
    match disk.resolve workingDir true path with
    | .ok (_, .dir) => true
    | _ => false
  readText path := do
    match ← disk.resolve workingDir true path with
    | (_, .file content) => decodeText content
    | (_, .dir) => .error .isADirectory
    | (_, .link _) => .error .other
  list := disk.list workingDir

end Disk

end DocTags
