/-
# Wanted extensions

The extensions decide which files of a directory a scan looks at. They count in one spelling each,
without dots in front and without capital letters, so that a scan does not see their order, their
repetitions or how they are written. With more of them a scan looks at more files, in the same order
of paths, and so it still finds, in the same order, what it found before.
-/

import DocTags.Proofs.Scan.Outcome
import DocTags.Proofs.Settings.Merging
import Mathlib.Data.List.Flatten

namespace DocTags

namespace Path

/-- The spelling of an extension that counts: without dots in front and without capital letters. -/
def plainSpelling (extension : Text) : Text :=
  (extension.dropWhile (· == '.')).map Char.toLower

theorem spells_iff {want extension : Text} :
    spells want extension = true ↔ plainSpelling want = extension.map Char.toLower := by
  rw [spells, Text.equalIgnoringCase, beq_iff_eq]
  rfl

/-- A path with one of some extensions has one of more extensions, whatever their spellings. -/
theorem hasExtension_of_subset {first second : List Text} {path : Path}
    (contained : first.map plainSpelling ⊆ second.map plainSpelling)
    (wanted : path.hasExtension first = true) : path.hasExtension second = true := by
  cases named : path.extension? with
  | none =>
      rw [hasExtension, named] at wanted
      cases wanted
  | some extension =>
      obtain ⟨want, member, names⟩ := (hasExtension_iff named).mp wanted
      obtain ⟨other, inSecond, same⟩ := List.mem_map.mp (contained (List.mem_map_of_mem member))
      refine (hasExtension_iff named).mpr ⟨other, inSecond, spells_iff.mpr ?_⟩
      rw [same]
      exact spells_iff.mp names

end Path

namespace FileSystem

variable {files : FileSystem} {path : Path} {first second : List Text} {includeEmpty : Bool}

/-- With fewer extensions a scan looks at some of the same files, in the same order. -/
theorem selected_sublist (contained : first.map Path.plainSpelling ⊆ second.map Path.plainSpelling)
    (listing : Listing) :
    (selected ⟨first, includeEmpty⟩ listing).Sublist (selected ⟨second, includeEmpty⟩ listing) := by
  have fewer : listing.files.filter (Path.hasExtension first) =
      (listing.files.filter (Path.hasExtension second)).filter (Path.hasExtension first) := by
    rw [List.filter_filter]
    refine List.filter_congr fun file _ => ?_
    cases wanted : file.hasExtension first with
    | false => rfl
    | true => rw [Path.hasExtension_of_subset contained wanted, Bool.and_self]
  rw [selected, fewer, Path.mergeSort_filter]
  exact List.filter_sublist

/-- With fewer extensions a scan reports some of the same, and counts no more files. -/
theorem Reports.of_subset (contained : first.map Path.plainSpelling ⊆ second.map Path.plainSpelling)
    {wider : Report} (reports : files.Reports ⟨second, includeEmpty⟩ path wider) :
    ∃ narrower, files.Reports ⟨first, includeEmpty⟩ path narrower ∧
      narrower.found.Sublist wider.found ∧
      narrower.filesScanned ≤ wider.filesScanned ∧ narrower.filesSkipped ≤ wider.filesSkipped := by
  cases reports with
  | file file read => exact ⟨_, .file file read, List.Sublist.refl _, Nat.le_refl _, Nat.le_refl _⟩
  | @directory listing noFile dir listed =>
      have fewer : (selected ⟨first, includeEmpty⟩ listing).Sublist
          (selected ⟨second, includeEmpty⟩ listing) := selected_sublist contained listing
      exact ⟨_, .directory noFile dir listed, fewer.flatMap _, fewer.countP_le,
        Nat.add_le_add_left fewer.countP_le _⟩

/-- **Extensions.** Extensions that are the same in their plain spellings, whatever their order and
their repetitions, give the same scan of every path. If the plain spellings of some extensions are
among those of others, the scans with both fail alike; and if they succeed, the one with more
extensions reports all matches of the other in their order, and counts at least as many files, read
and not read. -/
theorem scan_of_spellings (files : FileSystem) (path : Path) (includeEmpty : Bool)
    (first second : List Text) :
    ((∀ spelling, spelling ∈ first.map Path.plainSpelling ↔
          spelling ∈ second.map Path.plainSpelling) →
        files.scan ⟨first, includeEmpty⟩ path = files.scan ⟨second, includeEmpty⟩ path) ∧
      (first.map Path.plainSpelling ⊆ second.map Path.plainSpelling →
        (∀ fault, files.scan ⟨first, includeEmpty⟩ path = .error fault ↔
            files.scan ⟨second, includeEmpty⟩ path = .error fault) ∧
          ∀ wider, files.scan ⟨second, includeEmpty⟩ path = .ok wider →
            ∃ narrower, files.scan ⟨first, includeEmpty⟩ path = .ok narrower ∧
              narrower.found.Sublist wider.found ∧
              narrower.filesScanned ≤ wider.filesScanned ∧
              narrower.filesSkipped ≤ wider.filesSkipped) := by
  refine ⟨fun alike => ?_, fun contained => ⟨fun fault => ?_, fun wider scanned => ?_⟩⟩
  · have same : Path.hasExtension first = Path.hasExtension second := by
      funext file
      rw [Bool.eq_iff_iff]
      exact ⟨Path.hasExtension_of_subset fun spelling => (alike spelling).mp,
        Path.hasExtension_of_subset fun spelling => (alike spelling).mpr⟩
    simp only [scan, scanDirectory, same]
  · exact scan_eq_error_iff.trans scan_eq_error_iff.symm
  · obtain ⟨narrower, reports, found, scannedLess, skippedLess⟩ :=
      (scan_eq_ok_iff.mp scanned).of_subset contained
    exact ⟨narrower, reports.scan, found, scannedLess, skippedLess⟩

/-- Two files with different extensions: other spellings of one extension give the same scan, and
with both extensions both files are counted. -/
theorem scan_of_spellings_of_capitals :
    let memory : Memory :=
      { files := [(⟨"d/b.PHP".toList⟩, .ok "/** @k v */".toList), (⟨"d/a.inc".toList⟩, .ok [])]
        dirs := []
        unlistable := []
        listingFails := false }
    memory.fileSystem.scan ⟨["..pHp".toList, "php".toList], true⟩ ⟨['d']⟩ =
        memory.fileSystem.scan ⟨["PHP".toList], true⟩ ⟨['d']⟩ ∧
      ∃ narrower wider, memory.fileSystem.scan ⟨["PHP".toList], true⟩ ⟨['d']⟩ = .ok narrower ∧
        memory.fileSystem.scan ⟨["inc".toList, ".php".toList], true⟩ ⟨['d']⟩ = .ok wider ∧
        narrower.found.Sublist wider.found ∧
        narrower.filesScanned ≤ wider.filesScanned ∧ wider.filesScanned = 2 := by
  intro memory
  have noFile : memory.fileSystem.isFile ⟨['d']⟩ = false := by decide
  have dir : memory.fileSystem.isDir ⟨['d']⟩ = true := by decide
  have listed : memory.fileSystem.list ⟨['d']⟩ = .ok ⟨memory.files.map Prod.fst, []⟩ := rfl
  have wider : memory.fileSystem.Reports ⟨["inc".toList, ".php".toList], true⟩ ⟨['d']⟩ _ :=
    .directory noFile dir listed
  have two : (selected ⟨["inc".toList, ".php".toList], true⟩
      ⟨memory.files.map Prod.fst, []⟩).countP memory.fileSystem.isReadable = 2 :=
    ((selected_perm _ _).countP_eq _).trans (by decide)
  obtain ⟨-, wide⟩ := (scan_of_spellings memory.fileSystem ⟨['d']⟩ true ["PHP".toList]
    ["inc".toList, ".php".toList]).2 (by decide)
  obtain ⟨narrower, scanned, found, fewer, -⟩ := wide _ wider.scan
  refine ⟨?_, narrower, _, scanned, wider.scan, found, fewer, two⟩
  refine (scan_of_spellings memory.fileSystem ⟨['d']⟩ true ["..pHp".toList, "php".toList]
    ["PHP".toList]).1 fun spelling => ?_
  have twice : ["..pHp".toList, "php".toList].map Path.plainSpelling =
      ["php".toList, "php".toList] := by decide
  have once : ["PHP".toList].map Path.plainSpelling = ["php".toList] := by decide
  rw [twice, once]
  simp

end FileSystem

end DocTags
