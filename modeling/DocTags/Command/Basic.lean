/-
# Commands

What can be asked for on the command line: to read one comment, to look up one of its values, to
scan files, to show the settings or where they come from, and to print a completion script.
-/

import DocTags.Files.Path
import DocTags.Settings.Basic

namespace DocTags

/-- A shell that completes commands. -/
inductive Shell where
  | bash
  | elvish
  | fish
  | powershell
  | zsh
deriving DecidableEq

namespace Shell

/-- All shells. -/
def all : List Shell :=
  [bash, elvish, fish, powershell, zsh]

/-- The name of a shell. -/
def name : Shell → Text
  | bash => "bash".toList
  | elvish => "elvish".toList
  | fish => "fish".toList
  | powershell => "powershell".toList
  | zsh => "zsh".toList

/-- The shell with a name. -/
def ofName? (name : Text) : Option Shell :=
  all.find? fun shell => shell.name == name

end Shell

/-- A task that is done under settings. Where a file may be left out, the comment comes from the
standard input. -/
inductive Task where
  | parse (file : Option Path) (format : Option Format)
  | get (key : Text) (file : Option Path)
  | scan (path : Path) (format : Option Format) (extensions : List Text) (includeEmpty : Bool)
  | configShow
  | configTemplate
deriving DecidableEq

/-- A command: a task, or a question that is answered without settings. -/
inductive Command where
  | work (task : Task)
  | configPath
  | completion (shell : Shell)
deriving DecidableEq

/-- What the arguments say. -/
structure Invocation where
  /-- How often more messages were asked for. -/
  verbosity : Nat
  /-- The directory of the project, if it is not the working directory. -/
  projectDir : Option Path
  /-- The command, if one was given. -/
  command : Option Command
deriving DecidableEq

end DocTags
