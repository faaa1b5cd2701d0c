/-
# Sources

Which files a run looks at, said before they are read: the settings files first, then the path that
a task is about, and then the files whose comments it reads. What comes later follows from what was
seen before.
-/

import DocTags.Command.Run

namespace DocTags

/-- The path that a task is about, if it is about one. -/
def Task.subject? : Task → Option Path
  | parse file _ => commentFile? file
  | get _ file => commentFile? file
  | scan path _ _ _ => some path
  | configShow => none
  | configTemplate => none

/-- Whether a task reads the standard input. -/
def Task.readsInput : Task → Bool
  | parse file _ => (commentFile? file).isNone
  | get _ file => (commentFile? file).isNone
  | _ => false

/-- Whether a task goes through a directory if it is about one. -/
def Task.listsSubject : Task → Bool
  | scan _ _ _ _ => true
  | _ => false

/-- The files whose comments a task reads under given settings. -/
def Task.sources (files : FileSystem) (settings : Settings) : Task → List Path
  | parse file _ => (commentFile? file).toList
  | get _ file => (commentFile? file).toList
  | scan path _ extensions includeEmpty =>
    if files.isFile path then [path]
    else
      match files.list path, settings.scan.withOptions extensions includeEmpty with
      | .ok listing, .ok scanSettings =>
        listing.files.filter (Path.hasExtension scanSettings.extensions)
      | _, _ => []
  | configShow => []
  | configTemplate => []

namespace Invocation

/-- The task of an invocation, if its command is one. -/
def task? (invocation : Invocation) : Option Task :=
  match invocation.command with
  | some (.work task) => some task
  | _ => none

/-- The settings files that are looked for. -/
def settingsFiles (world : World) (invocation : Invocation) : List Path :=
  match invocation.task?, world.projectDir invocation.projectDir with
  | some _, .ok projectDir =>
    world.globalSettings.toList ++ [World.projectSettings projectDir]
  | _, _ => []

/-- The files whose comments are read, in a world in which the settings files and the path that
the task is about have been seen. -/
def sources (world : World) (invocation : Invocation) : List Path :=
  match invocation.task?, world.projectDir invocation.projectDir with
  | some task, .ok projectDir =>
    match world.settings projectDir with
    | .ok settings => task.sources world.files settings
    | .error _ => []
  | _, _ => []

end Invocation

end DocTags
