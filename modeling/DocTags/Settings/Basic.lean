/-
# Settings

How results are written, and which files of a directory are scanned for comments.
-/

import DocTags.Text.Basic

namespace DocTags

/-- How tags are written: drawn as a tree, as JSON, or one line for each key. -/
inductive Format where
  | tree
  | json
  | flat
deriving DecidableEq, Inhabited

namespace Format

/-- All formats. -/
def all : List Format :=
  [tree, json, flat]

/-- The name of a format. -/
def name : Format → Text
  | tree => ['t', 'r', 'e', 'e']
  | json => ['j', 's', 'o', 'n']
  | flat => ['f', 'l', 'a', 't']

/-- The format with a name. -/
def ofName? (name : Text) : Option Format :=
  all.find? fun format => format.name == name

/-- The format with a name in which capital letters do not count. -/
def ofNameIgnoringCase? (name : Text) : Option Format :=
  all.find? fun format => Text.equalIgnoringCase format.name name

end Format

/-- Which files of a directory are scanned, and which of their comments are reported. -/
structure ScanSettings where
  /-- The extensions of the files that are scanned. -/
  extensions : List Text := [['p', 'h', 'p']]
  /-- Whether comments without tags are reported. -/
  includeEmpty : Bool := false
deriving DecidableEq, Inhabited

/-- All settings. -/
structure Settings where
  format : Format := .tree
  scan : ScanSettings := {}
deriving DecidableEq, Inhabited

end DocTags
