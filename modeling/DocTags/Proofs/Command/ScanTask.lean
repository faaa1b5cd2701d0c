/-
# The scan as a task

A scan takes the way of every task over the project directory and the settings. Then the extensions
that its command gives have to mean something, and its path has to be one that can be scanned. The
first thing that is missing decides the exit code, whatever else is missing behind it.

Nothing else does. There is no text that a scan cannot go through, and below a directory there is no
file that it needs, so it never ends with the exit code for data. It counts what it passes over,
and the report decides what is written to the error stream: nothing if the number is zero, and else
one warning with the number. Without a report it is one line about the fault.
-/

import DocTags.Proofs.Command.Stages
import DocTags.Proofs.Scan.Outcome
import DocTags.Proofs.Text.Digits

namespace DocTags

/-! ## Paths that cannot be scanned -/

namespace FileSystem

variable {files : FileSystem} {path : Path}

/-- A path cannot be scanned: there is neither a file nor a directory, or a file that cannot be
read, or a directory that cannot be listed. -/
inductive Unscannable (files : FileSystem) (path : Path) : Prop where
  | missing (noFile : files.isFile path = false) (noDir : files.isDir path = false) :
    Unscannable files path
  | unreadable {cause : IoFault} (file : files.isFile path = true)
    (unread : files.readText path = .error cause) : Unscannable files path
  | unlistable {cause : IoFault} (noFile : files.isFile path = false)
    (dir : files.isDir path = true) (unlisted : files.list path = .error cause) :
    Unscannable files path

/-- A path cannot be scanned just if it stops a scan. -/
theorem unscannable_iff : files.Unscannable path ↔ ∃ fault, files.Stops path fault := by
  refine ⟨fun unscannable => ?_, fun ⟨fault, stops⟩ => ?_⟩
  · cases unscannable with
    | missing noFile noDir => exact ⟨_, .missing noFile noDir⟩
    | unreadable file unread => exact ⟨_, .unread file unread⟩
    | unlistable noFile dir unlisted => exact ⟨_, .unlisted noFile dir unlisted⟩
  · cases stops with
    | missing noFile noDir => exact .missing noFile noDir
    | unread file refused => exact .unreadable file refused
    | unlisted noFile dir refused => exact .unlistable noFile dir refused

/-- Such a path stops a scan like everything that cannot be read. -/
theorem Unscannable.scan (unscannable : files.Unscannable path) (settings : ScanSettings) :
    ∃ fault, files.scan settings path = .error fault ∧ fault.exitCode = 74 := by
  obtain ⟨fault, stops⟩ := unscannable_iff.mp unscannable
  refine ⟨fault, stops.scan settings, ?_⟩
  cases stops <;> rfl

/-- Every other path has a report. -/
theorem exists_scan (scannable : ¬ files.Unscannable path) (settings : ScanSettings) :
    ∃ report, files.scan settings path = .ok report := by
  rcases files.stops_or_reports settings path with stopped | ⟨report, reports⟩
  · exact absurd (unscannable_iff.mpr stopped) scannable
  · exact ⟨report, reports.scan⟩

end FileSystem

/-! ## Extensions without meaning -/

/-- An extension is empty or made of dots only. -/
def IsDots (extension : Text) : Prop :=
  ∀ c ∈ extension, c = '.'

theorem isExtension_iff {extension : Text} : isExtension extension = true ↔ ¬ IsDots extension := by
  simp [isExtension, IsDots]

namespace ScanSettings

variable {extensions : List Text}

theorem withOptions_of_dots (base : ScanSettings) (includeEmpty : Bool)
    (dots : ∃ extension ∈ extensions, IsDots extension) :
    ∃ fault, base.withOptions extensions includeEmpty = .error fault ∧ fault.exitCode = 64 := by
  have notAll : ¬ extensions.all isExtension = true := by
    obtain ⟨extension, member, only⟩ := dots
    exact fun all => isExtension_iff.mp (List.all_eq_true.mp all extension member) only
  rw [withOptions, if_neg notAll]
  exact ⟨_, rfl, rfl⟩

theorem exists_withOptions (base : ScanSettings) (includeEmpty : Bool)
    (meant : ∀ extension ∈ extensions, ¬ IsDots extension) :
    ∃ settings, base.withOptions extensions includeEmpty = .ok settings := by
  have all : extensions.all isExtension = true :=
    List.all_eq_true.mpr fun extension member => isExtension_iff.mpr (meant extension member)
  rw [withOptions, if_pos all]
  exact ⟨_, rfl⟩

end ScanSettings

/-! ## The way to the report -/

namespace World

/-- The settings in force, and the report of a scan under them and the options of its command. -/
def report (world : World) (given : Option Path) (path : Path) (extensions : List Text)
    (includeEmpty : Bool) : Except Fault (Settings × Report) := do
  let projectDir ← world.projectDir given
  let settings ← world.settings projectDir
  let scanSettings ← settings.scan.withOptions extensions includeEmpty
  let report ← world.files.scan scanSettings path
  return (settings, report)

/-- How a scan ends: with the exit code of the first stage that fails, or with zero. -/
inductive ScanEnds (world : World) (given : Option Path) (path : Path) (extensions : List Text) :
    Nat → Prop where
  | noProject {fault : Fault} (unknown : world.projectDir given = .error fault) :
    ScanEnds world given path extensions 74
  | noSettings {projectDir : Path} {fault : Fault} (known : world.projectDir given = .ok projectDir)
    (broken : world.settings projectDir = .error fault) : ScanEnds world given path extensions 78
  | noExtension {projectDir : Path} {settings : Settings}
    (known : world.projectDir given = .ok projectDir)
    (loaded : world.settings projectDir = .ok settings)
    (dots : ∃ extension ∈ extensions, IsDots extension) : ScanEnds world given path extensions 64
  | noSource {projectDir : Path} {settings : Settings}
    (known : world.projectDir given = .ok projectDir)
    (loaded : world.settings projectDir = .ok settings)
    (meant : ∀ extension ∈ extensions, ¬ IsDots extension)
    (unscannable : world.files.Unscannable path) : ScanEnds world given path extensions 74
  | scanned {projectDir : Path} {settings : Settings}
    (known : world.projectDir given = .ok projectDir)
    (loaded : world.settings projectDir = .ok settings)
    (meant : ∀ extension ∈ extensions, ¬ IsDots extension)
    (scannable : ¬ world.files.Unscannable path) : ScanEnds world given path extensions 0

variable {world : World} {given : Option Path} {path : Path} {extensions : List Text}
  {code : Nat}

/-- Once the settings and the options of the command are known, there is a report if the path can be
scanned under them. -/
theorem report_eq {projectDir : Path} {settings : Settings} {scanSettings : ScanSettings}
    {includeEmpty : Bool} (known : world.projectDir given = .ok projectDir)
    (loaded : world.settings projectDir = .ok settings)
    (taken : settings.scan.withOptions extensions includeEmpty = .ok scanSettings) :
    world.report given path extensions includeEmpty =
      (world.files.scan scanSettings path).map (settings, ·) := by
  rw [World.report, known, ok_bind, loaded, ok_bind, taken, ok_bind]
  cases world.files.scan scanSettings path <;> rfl

/-- A scan that ends with zero has a report, and one that ends otherwise a fault with that code. -/
theorem ScanEnds.report (ends : world.ScanEnds given path extensions code) (includeEmpty : Bool) :
    (∃ fault, world.report given path extensions includeEmpty = .error fault ∧
      fault.exitCode = code) ∨
    code = 0 ∧ ∃ made, world.report given path extensions includeEmpty = .ok made := by
  cases ends with
  | @noProject fault unknown =>
      refine Or.inl ⟨fault, ?_, exitCode_of_projectDir unknown⟩
      rw [World.report, unknown, error_bind]
  | @noSettings projectDir fault known broken =>
      refine Or.inl ⟨fault, ?_, exitCode_of_settings broken⟩
      rw [World.report, known, ok_bind, broken, error_bind]
  | @noExtension projectDir settings known loaded dots =>
      obtain ⟨fault, refused, exits⟩ := settings.scan.withOptions_of_dots includeEmpty dots
      refine Or.inl ⟨fault, ?_, exits⟩
      rw [World.report, known, ok_bind, loaded, ok_bind, refused, error_bind]
  | @noSource projectDir settings known loaded meant unscannable =>
      obtain ⟨scanSettings, taken⟩ := settings.scan.exists_withOptions includeEmpty meant
      obtain ⟨fault, failed, exits⟩ := unscannable.scan scanSettings
      refine Or.inl ⟨fault, ?_, exits⟩
      rw [report_eq known loaded taken, failed]
      rfl
  | @scanned projectDir settings known loaded meant scannable =>
      obtain ⟨scanSettings, taken⟩ := settings.scan.exists_withOptions includeEmpty meant
      obtain ⟨report, made⟩ := FileSystem.exists_scan scannable scanSettings
      refine Or.inr ⟨rfl, (settings, report), ?_⟩
      rw [report_eq known loaded taken, made]
      rfl

end World

/-! ## Warnings -/

/-- The warning about a number of files that were passed over. -/
def skipWarning (coloured : Bool) (skipped : Nat) : Text :=
  labelled .warning coloured "Warning".toList
    (Text.ofNat skipped ++ " unreadable file(s) skipped, run with -d for details".toList)

theorem Report.warnings_print (coloured : Bool) (format : Format) (report : Report) :
    (report.print coloured format).warnings =
      if report.filesSkipped = 0 then [] else skipWarning coloured report.filesSkipped := rfl

namespace Invocation

variable {world : World} {invocation : Invocation} {path : Path} {format : Option Format}
  {extensions : List Text} {includeEmpty : Bool}

end Invocation

end DocTags
