/-
# Faults

Everything that can stop a command, each with the words in which it is reported and the exit code
that it leads to.
-/

import DocTags.Files.FileSystem

namespace DocTags

/-- What stopped a command. -/
inductive Fault where
  /-- The input is not a doc comment. -/
  | notDocComment (detail : Text)
  /-- A hyphenated name was given where a single name is wanted. -/
  | nestedName (name : Text)
  /-- No tag has the wanted key. -/
  | noValue (key : Text)
  /-- The settings cannot be loaded. -/
  | settings (detail : Text)
  /-- A file or a directory cannot be read. -/
  | failed (action : Text) (cause : IoFault)
  /-- A stream or the working directory cannot be read. -/
  | stream (action : Text) (cause : IoFault)
  /-- An argument has a value without meaning. -/
  | badArgument (detail : Text)
  /-- The arguments name no command. -/
  | usage (detail : Text)
deriving DecidableEq

namespace Fault

/-- The fault of an action on a path. -/
def onPath (action : Text) (path : Path) (cause : IoFault) : Fault :=
  .failed (action ++ ": ".toList ++ path.text) cause

/-- The fault in words. -/
def message : Fault → Text
  | notDocComment detail => "not a doc comment: ".toList ++ detail
  | nestedName name => "nested names are not supported by single-level accessors: ".toList ++ name
  | noValue key => "no value for key: ".toList ++ key
  | settings detail => "config error: ".toList ++ detail
  | failed action _ => "operation failed: ".toList ++ action
  | stream action _ => "I/O error: ".toList ++ action
  | badArgument detail => "invalid arguments: ".toList ++ detail
  | usage detail => detail

/-- What the system said, where the system was asked. -/
def cause? : Fault → Option IoFault
  | failed _ cause => some cause
  | stream _ cause => some cause
  | _ => none

/-- The exit code of a command that a fault stopped: 64 for its use, 65 for its data, 74 for
reading, 78 for its settings. -/
def exitCode : Fault → Nat
  | notDocComment _ => 65
  | nestedName _ => 64
  | noValue _ => 65
  | settings _ => 78
  | failed _ _ => 74
  | stream _ _ => 74
  | badArgument _ => 64
  | usage _ => 64

end Fault

end DocTags
