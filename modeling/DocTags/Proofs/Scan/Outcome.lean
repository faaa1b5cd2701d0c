/-
# How a scan ends

A scan is stopped by the path: there is nothing, or a file that cannot be read, or a directory that
cannot be listed. Otherwise it has a report: the matches of the file, or the counts and the matches
of the files of the directory that have a wanted extension. Since the settings do not occur in what
stops a scan, two scans of one path fail alike, whatever their settings.
-/

import DocTags.Proofs.Scan.Directory

namespace DocTags

namespace FileSystem

variable {files : FileSystem} {settings : ScanSettings} {path : Path} {fault : Fault}
  {report : Report}

/-- What stops a scan of a path, with the fault that it ends in. -/
inductive Stops (files : FileSystem) (path : Path) : Fault → Prop where
  | missing (noFile : files.isFile path = false) (noDir : files.isDir path = false) :
    Stops files path (.onPath "path not found".toList path .notFound)
  | unread {cause : IoFault} (file : files.isFile path = true)
    (refused : files.readText path = .error cause) :
    Stops files path (.onPath "read source file".toList path cause)
  | unlisted {cause : IoFault} (noFile : files.isFile path = false)
    (dir : files.isDir path = true) (refused : files.list path = .error cause) :
    Stops files path (.onPath "list directory".toList path cause)

/-- What a scan that nothing stops reports of a file, or of the selected files of a directory. -/
inductive Reports (files : FileSystem) (settings : ScanSettings) (path : Path) : Report → Prop where
  | file {source : Text} (file : files.isFile path = true)
    (read : files.readText path = .ok source) :
    Reports files settings path ⟨1, 0, files.matchesIn settings.includeEmpty path⟩
  | directory {listing : Listing} (noFile : files.isFile path = false)
    (dir : files.isDir path = true) (listed : files.list path = .ok listing) :
    Reports files settings path
      ⟨(selected settings listing).countP files.isReadable,
        listing.unreadable.length + (selected settings listing).countP (!files.isReadable ·),
        (selected settings listing).flatMap (files.matchesIn settings.includeEmpty)⟩

theorem Stops.scan (stops : files.Stops path fault) (settings : ScanSettings) :
    files.scan settings path = .error fault := by
  cases stops with
  | missing noFile noDir =>
      rw [FileSystem.scan, noFile, noDir]
      rfl
  | unread file refused =>
      rw [FileSystem.scan, if_pos file, scanFile_of_not_readText refused]
      rfl
  | unlisted noFile dir refused =>
      rw [FileSystem.scan, noFile, dir, scanDirectory, refused]
      rfl

theorem Reports.scan (reports : files.Reports settings path report) :
    files.scan settings path = .ok report := by
  cases reports with
  | file file read =>
      have readable : files.isReadable path = true := by rw [isReadable, read]; rfl
      rw [FileSystem.scan, if_pos file, scanFile_of_isReadable _ readable]
      rfl
  | directory noFile dir listed => rw [scan_of_list noFile dir listed, tally_map_scanFile]

/-- A scan is stopped or has a report. -/
theorem stops_or_reports (files : FileSystem) (settings : ScanSettings) (path : Path) :
    (∃ fault, files.Stops path fault) ∨ ∃ report, files.Reports settings path report := by
  cases file : files.isFile path with
  | true =>
      cases read : files.readText path with
      | error cause => exact Or.inl ⟨_, .unread file read⟩
      | ok source => exact Or.inr ⟨_, .file file read⟩
  | false =>
      cases dir : files.isDir path with
      | false => exact Or.inl ⟨_, .missing file dir⟩
      | true =>
          cases listed : files.list path with
          | error cause => exact Or.inl ⟨_, .unlisted file dir listed⟩
          | ok listing => exact Or.inr ⟨_, .directory file dir listed⟩

/-- A scan fails with just the fault that stops it. -/
theorem scan_eq_error_iff : files.scan settings path = .error fault ↔ files.Stops path fault := by
  refine ⟨fun failed => ?_, fun stops => stops.scan settings⟩
  rcases files.stops_or_reports settings path with ⟨cause, stops⟩ | ⟨report, reports⟩
  · rw [stops.scan] at failed
    cases failed
    exact stops
  · rw [reports.scan] at failed
    cases failed

/-- A scan that succeeds has just the report of the path. -/
theorem scan_eq_ok_iff :
    files.scan settings path = .ok report ↔ files.Reports settings path report := by
  refine ⟨fun scanned => ?_, Reports.scan⟩
  rcases files.stops_or_reports settings path with ⟨cause, stops⟩ | ⟨other, reports⟩
  · rw [stops.scan] at scanned
    cases scanned
  · rw [reports.scan] at scanned
    cases scanned
    exact reports

end FileSystem

end DocTags
