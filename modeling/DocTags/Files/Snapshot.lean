/-
# Snapshots

A file system as far as it has been looked at: what stands at some paths, the texts of some files,
and the listings of some directories. A command that has been told which paths it will ask for is
run against a snapshot of them. At any other path nothing stands.
-/

import DocTags.Files.FileSystem

namespace DocTags

/-- What stands at a path when links are followed. -/
inductive Sight where
  | file
  | dir
  | other
deriving DecidableEq

/-- What has been seen of a file system. -/
structure Snapshot where
  sights : List (Path × Sight) := []
  texts : List (Path × Except IoFault Text) := []
  listings : List (Path × Except IoFault Listing) := []

namespace Snapshot

/-- The file system of which a snapshot shows a part. -/
def fileSystem (snapshot : Snapshot) : FileSystem where
  isFile path := snapshot.sights.lookup path == some .file
  isDir path := snapshot.sights.lookup path == some .dir
  readText path := (snapshot.texts.lookup path).getD (.error .notFound)
  list path := (snapshot.listings.lookup path).getD (.error .notFound)

/-- What is seen first or else second. -/
def append (first second : Snapshot) : Snapshot where
  sights := first.sights ++ second.sights
  texts := first.texts ++ second.texts
  listings := first.listings ++ second.listings

instance : Append Snapshot :=
  ⟨append⟩

end Snapshot

end DocTags
