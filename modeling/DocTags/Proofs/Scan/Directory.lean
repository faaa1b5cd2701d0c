/-
# The report of a directory

A directory that can be listed is scanned, whatever its files hold. Every file with a wanted
extension and every entry that cannot be read is counted once, as scanned or as skipped, and what
is found are the matches of the files that can be read, file by file in the order of paths. Since
different paths can be put into that order in one way only, the order in which the directory
lists them does not matter.
-/

import DocTags.Files.Memory
import DocTags.Proofs.Files.PathOrder
import DocTags.Proofs.Scan.Matches

namespace DocTags

/-! ## Listings in another order -/

/-- Two answers to the question for a listing differ in its order at most. -/
inductive Listing.Permuted : Except IoFault Listing → Except IoFault Listing → Prop where
  | listed {listing other : Listing} (files : listing.files.Perm other.files)
    (unreadable : listing.unreadable.Perm other.unreadable) : Permuted (.ok listing) (.ok other)
  | failed (cause : IoFault) : Permuted (.error cause) (.error cause)

namespace FileSystem

/-- Two file systems differ in the order of their listings at most. -/
structure SameUpToOrder (files other : FileSystem) : Prop where
  isFile : ∀ path, other.isFile path = files.isFile path
  isDir : ∀ path, other.isDir path = files.isDir path
  readText : ∀ path, other.readText path = files.readText path
  list : ∀ path, Listing.Permuted (files.list path) (other.list path)

variable {files other : FileSystem} {settings : ScanSettings} {path : Path} {listing : Listing}

/-- The same texts give the same matches. -/
theorem SameUpToOrder.scanFile (alike : files.SameUpToOrder other) (includeEmpty : Bool) :
    other.scanFile includeEmpty = files.scanFile includeEmpty := by
  funext path
  rw [FileSystem.scanFile, FileSystem.scanFile, alike.readText]

/-! ## The results of several files -/

/-- Whether a file can be read. -/
def isReadable (files : FileSystem) (path : Path) : Bool :=
  (files.readText path).isOk

/-- The matches of a file, none if it cannot be read. -/
def matchesIn (files : FileSystem) (includeEmpty : Bool) (path : Path) : List Match :=
  ((files.scanFile includeEmpty path).toOption).getD []

theorem matchesIn_of_scanFile {includeEmpty : Bool} {found : List Match}
    (scanned : files.scanFile includeEmpty path = .ok found) :
    files.matchesIn includeEmpty path = found := by
  rw [matchesIn, scanned]
  rfl

theorem scanFile_of_isReadable (includeEmpty : Bool) (readable : files.isReadable path = true) :
    files.scanFile includeEmpty path = .ok (files.matchesIn includeEmpty path) := by
  cases read : files.readText path with
  | ok source =>
      have scanned : files.scanFile includeEmpty path = _ := scanFile_of_readText read
      rw [matchesIn_of_scanFile scanned, scanned]
  | error cause =>
      rw [isReadable, read] at readable
      cases readable

theorem matchesIn_of_not_isReadable (includeEmpty : Bool)
    (unread : files.isReadable path = false) : files.matchesIn includeEmpty path = [] := by
  cases read : files.readText path with
  | ok source =>
      rw [isReadable, read] at unread
      cases unread
  | error cause =>
      rw [matchesIn, scanFile_of_not_readText read]
      rfl

/-- Files are counted by whether they can be read, and their matches follow each other. -/
theorem tally_map_scanFile (files : FileSystem) (includeEmpty : Bool) (unreadable : Nat)
    (paths : List Path) :
    tally unreadable (paths.map (files.scanFile includeEmpty)) =
      ⟨paths.countP files.isReadable, unreadable + paths.countP (!files.isReadable ·),
        paths.flatMap (files.matchesIn includeEmpty)⟩ := by
  have readable : (fun file => (files.scanFile includeEmpty file).isOk) = files.isReadable :=
    funext fun file => isOk_scanFile files includeEmpty file
  simp only [tally, List.countP_map, List.flatMap_map, Function.comp_def, ← readable]
  refine congrArg (Report.mk _ _) (List.flatMap_congr fun file _ => ?_)
  rw [matchesIn]
  cases files.scanFile includeEmpty file <;> rfl

/-- Files that cannot be read do not matter for what is found. -/
theorem flatMap_matchesIn_filter (includeEmpty : Bool) (paths : List Path) :
    (paths.filter files.isReadable).flatMap (files.matchesIn includeEmpty) =
      paths.flatMap (files.matchesIn includeEmpty) :=
  flatMap_filter_of_nil fun _ _ unread => matchesIn_of_not_isReadable includeEmpty unread

theorem path_of_mem_matchesIn {includeEmpty : Bool} {found : Match}
    (member : found ∈ files.matchesIn includeEmpty path) : found.path = path := by
  cases readable : files.isReadable path with
  | false =>
      rw [matchesIn_of_not_isReadable includeEmpty readable] at member
      cases member
  | true =>
      obtain ⟨source, -, same⟩ :=
        scanFile_eq_ok_iff.mp (scanFile_of_isReadable includeEmpty readable)
      rw [← same] at member
      exact Match.path_of_mem_inSource member

theorem pairwise_line_matchesIn (files : FileSystem) (includeEmpty : Bool) (path : Path) :
    (files.matchesIn includeEmpty path).Pairwise fun first later => first.line ≤ later.line := by
  cases readable : files.isReadable path with
  | false =>
      rw [matchesIn_of_not_isReadable includeEmpty readable]
      exact .nil
  | true =>
      obtain ⟨source, -, same⟩ :=
        scanFile_eq_ok_iff.mp (scanFile_of_isReadable includeEmpty readable)
      rw [← same]
      exact Match.pairwise_line_inSource path includeEmpty source

/-- Matches of files in ascending order are ordered by path and then by line. -/
theorem pairwise_flatMap_matchesIn (files : FileSystem) (includeEmpty : Bool) {paths : List Path}
    (ascending : paths.Pairwise Path.Before) :
    (paths.flatMap (files.matchesIn includeEmpty)).Pairwise fun first later =>
      first.path.Before later.path ∨ first.path = later.path ∧ first.line ≤ later.line := by
  refine List.pairwise_flatMap.mpr ⟨?_, ?_⟩
  · intro path _
    refine (files.pairwise_line_matchesIn includeEmpty path).imp_of_mem ?_
    intro first later member laterMember lines
    right
    rw [path_of_mem_matchesIn member, path_of_mem_matchesIn laterMember]
    exact ⟨rfl, lines⟩
  · refine ascending.imp ?_
    intro path other before first member later laterMember
    left
    rwa [path_of_mem_matchesIn member, path_of_mem_matchesIn laterMember]

/-! ## A directory -/

/-- The files of a listing that a scan looks at, in the order in which it takes them. -/
def selected (settings : ScanSettings) (listing : Listing) : List Path :=
  (listing.files.filter (Path.hasExtension settings.extensions)).mergeSort Path.le

theorem scan_of_list (noFile : files.isFile path = false) (dir : files.isDir path = true)
    (listed : files.list path = .ok listing) :
    files.scan settings path = .ok (tally listing.unreadable.length
      ((selected settings listing).map (files.scanFile settings.includeEmpty))) := by
  rw [scan, noFile, dir]
  simp only [scanDirectory, listed]
  rfl

theorem selected_perm (settings : ScanSettings) (listing : Listing) :
    (selected settings listing).Perm
      (listing.files.filter (Path.hasExtension settings.extensions)) :=
  List.mergeSort_perm _ _

/-- The order in which a directory lists its files does not matter for its report. -/
theorem SameUpToOrder.scan_eq (alike : files.SameUpToOrder other)
    (noFile : files.isFile path = false) (dir : files.isDir path = true)
    (listed : files.list path = .ok listing) (distinct : Path.Distinct listing.files) :
    other.scan settings path = files.scan settings path := by
  have lists := alike.list path
  rw [listed] at lists
  cases answer : other.list path with
  | error cause =>
      rw [answer] at lists
      cases lists
  | ok permuted =>
      rw [answer] at lists
      cases lists with
      | listed sameFiles sameUnreadable =>
          have order : selected settings listing = selected settings permuted :=
            (distinct.filter _).mergeSort_eq_of_perm (sameFiles.filter _)
          rw [scan_of_list noFile dir listed,
            scan_of_list ((alike.isFile path).trans noFile) ((alike.isDir path).trans dir) answer,
            order, sameUnreadable.length_eq, alike.scanFile]

/-- **Scanning a directory.** A directory that can be listed is scanned. Every listed file with a
wanted extension and every unreadable entry is counted once, and the scanned files are those that
can be read. What is found are their own matches in ascending order of their paths, and so it is
ordered by path and then by line. A file system with another order of listing gives the same
report. -/
theorem scan_directory (noFile : files.isFile path = false) (dir : files.isDir path = true)
    (listed : files.list path = .ok listing) (distinct : Path.Distinct listing.files) :
    ∃ report, files.scan settings path = .ok report ∧
      report.filesScanned + report.filesSkipped =
        (listing.files.filter (Path.hasExtension settings.extensions)).length +
          listing.unreadable.length ∧
      report.filesScanned =
        ((listing.files.filter (Path.hasExtension settings.extensions)).filter
          fun file => (files.readText file).isOk).length ∧
      (∃ order results,
        order.Perm ((listing.files.filter (Path.hasExtension settings.extensions)).filter
          fun file => (files.readText file).isOk) ∧
        order.Pairwise Path.Before ∧
        List.Forall₂ (fun file found => files.scanFile settings.includeEmpty file = .ok found)
          order results ∧
        report.found = results.flatten) ∧
      report.found.Pairwise (fun first later =>
        first.path.Before later.path ∨ first.path = later.path ∧ first.line ≤ later.line) ∧
      ∀ other, files.SameUpToOrder other → other.scan settings path = .ok report := by
  have permuted := selected_perm settings listing
  have ascending : (selected settings listing).Pairwise Path.Before :=
    (distinct.filter _).pairwise_before_mergeSort
  have scanned : files.scan settings path = _ := scan_of_list noFile dir listed
  rw [tally_map_scanFile] at scanned
  refine ⟨_, scanned, ?_, ?_, ?_, files.pairwise_flatMap_matchesIn _ ascending, ?_⟩
  · have counted :=
      List.length_eq_countP_add_countP files.isReadable (l := selected settings listing)
    simp only [Bool.not_eq_true, Bool.decide_eq_false] at counted
    rw [← permuted.length_eq, counted]
    dsimp only
    omega
  · exact (permuted.countP_eq _).trans List.countP_eq_length_filter
  · refine ⟨(selected settings listing).filter files.isReadable,
      ((selected settings listing).filter files.isReadable).map
        (files.matchesIn settings.includeEmpty),
      permuted.filter _, ascending.filter _, ?_, ?_⟩
    · rw [List.forall₂_map_right_iff, List.forall₂_same]
      intro file member
      exact scanFile_of_isReadable _ (List.mem_filter.mp member).2
    · rw [← List.flatMap_def, flatMap_matchesIn_filter]
  · intro other alike
    exact (alike.scan_eq noFile dir listed distinct).trans scanned

/-- The file system with every listing turned round. -/
def turned (files : FileSystem) : FileSystem where
  isFile := files.isFile
  isDir := files.isDir
  readText := files.readText
  list path := (files.list path).map fun listing =>
    ⟨listing.files.reverse, listing.unreadable.reverse⟩

theorem sameUpToOrder_turned (files : FileSystem) : files.SameUpToOrder files.turned := by
  refine ⟨fun _ => rfl, fun _ => rfl, fun _ => rfl, fun path => ?_⟩
  cases answer : files.list path with
  | ok listing =>
      simp only [turned, answer, Except.map]
      exact .listed listing.files.reverse_perm.symm listing.unreadable.reverse_perm.symm
  | error cause =>
      simp only [turned, answer, Except.map]
      exact .failed cause

/-- Two of three files with a wanted extension can be read, and one entry cannot: the report counts
all four, also when the listing is turned round. -/
theorem scan_directory_of_memory :
    let memory : Memory :=
      { files := [(⟨"d/b.php".toList⟩, .ok "/***//** @k v */".toList),
          (⟨"d/a.PHP".toList⟩, .ok "/** @k */".toList),
          (⟨"d/c.php".toList⟩, .error .invalidData), (⟨"d/n.txt".toList⟩, .ok [])]
        dirs := []
        unlistable := [⟨"d/e".toList⟩]
        listingFails := false }
    ∃ report, memory.fileSystem.scan {} ⟨['d']⟩ = .ok report ∧
      memory.fileSystem.turned.scan {} ⟨['d']⟩ = .ok report ∧
      report.filesScanned = 2 ∧ report.filesSkipped = 2 := by
  intro memory
  have noFile : memory.fileSystem.isFile ⟨['d']⟩ = false := by decide
  have dir : memory.fileSystem.isDir ⟨['d']⟩ = true := by decide
  have listed : memory.fileSystem.list ⟨['d']⟩ =
      .ok ⟨memory.files.map Prod.fst, memory.unlistable⟩ := rfl
  obtain ⟨report, scanned, total, readable, -, -, anyOrder⟩ :=
    @scan_directory _ {} _ _ noFile dir listed (by decide)
  have two : report.filesScanned = 2 := readable.trans (by decide)
  have four : report.filesScanned + report.filesSkipped = 4 := total.trans (by decide)
  exact ⟨report, scanned, anyOrder _ (sameUpToOrder_turned _), two, by omega⟩

end FileSystem

end DocTags
