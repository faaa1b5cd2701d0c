/-
# Loading settings

The settings in force are those of four layers, from the lowest to the highest: the defaults, the
global file, whose extensions replace the defaults, the file of the project, whose extensions are
merged into those below, and the environment, which replaces. A file that does not exist gives
nothing. A file that cannot be read and a variable that makes no sense are faults, and the first
one in the order of the layers is reported.
-/

import DocTags.Files.FileSystem
import DocTags.Settings.Environment
import DocTags.Settings.Toml

namespace DocTags

/-- What stands where a settings file is looked for. -/
inductive SettingsFile where
  | absent
  | unreadable (cause : IoFault)
  | text (content : Text)

/-- The settings file at a path. -/
def SettingsFile.read (files : FileSystem) (path : Path) : SettingsFile :=
  if files.hasEntry path then
    match files.readText path with
    | .ok content => .text content
    | .error cause => .unreadable cause
  else .absent

namespace Settings

/-- Why settings cannot be loaded. -/
inductive Fault where
  | unreadable (path : Path) (cause : IoFault)
  | malformed (path : Path)
  | badVariable (name : Text) (problem : Environment.Problem)

/-- The fault in words. -/
def Fault.message : Fault → Text
  | unreadable path cause => "read ".toList ++ path.text ++ ": ".toList ++ cause.message
  | malformed path => "parse ".toList ++ path.text ++ ": TOML parse error".toList
  | badVariable name problem => name ++ ": ".toList ++ problem.message

/-- The layer that a settings file gives. -/
def layerOf (path : Path) : SettingsFile → Except Fault Layer
  | .absent => .ok {}
  | .unreadable cause => .error (.unreadable path cause)
  | .text content => (Layer.ofToml? content).elim (.error (.malformed path)) .ok

/-- The variable that holds the format. -/
def formatVariable : Text :=
  "HIERARDOC_FORMAT".toList

/-- The variable that holds the extensions. -/
def extensionsVariable : Text :=
  "HIERARDOC_SCAN__FILE_EXTENSIONS".toList

/-- The variable that says whether comments without tags are reported. -/
def includeEmptyVariable : Text :=
  "HIERARDOC_SCAN__INCLUDE_EMPTY".toList

/-- The layer that the environment gives. -/
def layerOfEnvironment (environment : Environment) : Except Fault Layer := do
  let format ← environment.format.mapError (.badVariable formatVariable)
  let extensions ← environment.extensions.mapError (.badVariable extensionsVariable)
  let includeEmpty ← environment.includeEmpty.mapError (.badVariable includeEmptyVariable)
  return ⟨format, ⟨extensions, includeEmpty⟩⟩

/-- The settings in force, given the global file and the file of the project where they are looked
for, and the environment. -/
def load (global project : Option (Path × SettingsFile)) (environment : Environment) :
    Except Fault Settings := do
  let globalLayer ← global.elim (.ok {}) fun (path, file) => layerOf path file
  let projectLayer ← project.elim (.ok {}) fun (path, file) => layerOf path file
  let highest ← layerOfEnvironment environment
  return ((replace {} globalLayer).merge projectLayer).replace highest

end Settings

end DocTags
