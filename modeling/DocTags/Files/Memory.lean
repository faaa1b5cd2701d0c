/-
# Files in memory

A file system given by a list of files. The directories are those that lead to a file, and some
more that may be empty. A file has its text or the reason why it cannot be read, and entries of a
directory, or listing as a whole, can be set to fail.
-/

import DocTags.Files.FileSystem

namespace DocTags

/-- The files of a file system in memory. -/
structure Memory where
  /-- The files with their texts, or with the reason why they cannot be read. -/
  files : List (Path × Except IoFault Text)
  /-- Further directories. -/
  dirs : List Path
  /-- Entries that cannot be read when a directory that leads to them is listed. -/
  unlistable : List Path
  /-- Whether no directory can be listed. -/
  listingFails : Bool

namespace Memory

/-- No files. -/
def empty : Memory :=
  ⟨[], [], [], false⟩

/-- The first file with the components of a path. -/
def file? (memory : Memory) (path : Path) : Option (Path × Except IoFault Text) :=
  memory.files.find? fun file => file.1.same path

/-- The file system that the files make up. -/
def fileSystem (memory : Memory) : FileSystem where
  isFile path := (memory.file? path).isSome
  isDir path :=
    memory.dirs.any (·.same path) ||
      memory.files.any fun file => path.leadsTo file.1 && !file.1.same path
  readText path :=
    match memory.file? path with
    | none => .error .notFound
    | some (_, content) => content
  list path :=
    if memory.listingFails then .error .permissionDenied
    else .ok ⟨(memory.files.map Prod.fst).filter path.leadsTo, memory.unlistable.filter path.leadsTo⟩

end Memory

end DocTags
