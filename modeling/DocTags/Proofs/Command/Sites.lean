/-
# Sites

A site is a world whose files are on a disk. Two sites differ in their settings alone if they differ
in the contents of the settings files and in the variables of settings, and in nothing else. The
paths of settings files, the project directory, and the text of a comment are then the same at both,
unless the comment is itself in a settings file.
-/

import DocTags.Proofs.Command.Stages
import DocTags.Proofs.Files.Walks

namespace DocTags

/-- A world whose files are those of a disk, seen from a place. -/
structure Site where
  disk : Disk
  place : Place
  environment : Environment
  accountHome : Option Path
  workingDir : Except IoFault Path
  input : Except IoFault Text

/-- Two environments have the same variables apart from those of settings. -/
def Environment.SameBesideSettings (environment other : Environment) : Prop :=
  ∀ name, key? name = none → other.lookup name = environment.lookup name

namespace Site

/-- What a command sees at a site. -/
def world (site : Site) : World where
  files := site.disk.fileSystem site.place
  environment := site.environment
  accountHome := site.accountHome
  workingDir := site.workingDir
  input := site.input

/-- The paths at which settings files are looked for. -/
def settingsPaths (site : Site) (given : Option Path) : List Path :=
  site.world.globalSettings.toList ++
    ((site.world.projectDir given).toOption.map World.projectSettings).toList

/-- A path at which a settings file is looked for leads to a place. -/
def IsSettingsPlace (site : Site) (given : Option Path) (place : Place) : Prop :=
  ∃ path ∈ site.settingsPaths given, site.disk.LeadsTo site.place path place

/-- A path leads to a settings file. -/
def IsSettingsFile (site : Site) (given : Option Path) (path : Path) : Prop :=
  ∃ place, site.disk.LeadsTo site.place path place ∧ site.IsSettingsPlace given place

/-- Two sites differ in the contents of settings files and in the variables of settings, if at
all. -/
structure DifferInSettings (site : Site) (given : Option Path) (other : Site) : Prop where
  disk : Disk.SameBeside (site.IsSettingsPlace given) site.disk other.disk
  environment : site.environment.SameBesideSettings other.environment
  place : other.place = site.place
  accountHome : other.accountHome = site.accountHome
  workingDir : other.workingDir = site.workingDir
  input : other.input = site.input

namespace DifferInSettings

variable {given : Option Path} {site other : Site}

theorem coloured (differ : site.DifferInSettings given other) :
    other.world.coloured = site.world.coloured := by
  have force := differ.environment "CLICOLOR_FORCE".toList (by decide)
  simp only [World.coloured, Environment.forcesColour, world, force]

theorem globalSettings (differ : site.DifferInSettings given other) :
    other.world.globalSettings = site.world.globalSettings := by
  have home := differ.environment "HOME".toList (by decide)
  have configHome := differ.environment "XDG_CONFIG_HOME".toList (by decide)
  simp only [World.globalSettings, World.configHome, World.home, world, home, configHome,
    differ.accountHome]

theorem projectDir (differ : site.DifferInSettings given other) (dir : Option Path) :
    other.world.projectDir dir = site.world.projectDir dir := by
  simp only [World.projectDir, world, differ.workingDir]

/-- The text of a comment is the same unless the file is a settings file. -/
theorem commentText (differ : site.DifferInSettings given other) {file : Option Path}
    (apart : ∀ path, commentFile? file = some path → ¬ site.IsSettingsFile given path) :
    other.world.commentText file = site.world.commentText file := by
  rw [World.commentText, World.commentText]
  cases found : commentFile? file with
  | none => exact differ.input
  | some path =>
      simp only [world, differ.place]
      exact differ.disk.readText fun place leads there => apart path found ⟨place, leads, there⟩

end DifferInSettings

end Site

end DocTags
