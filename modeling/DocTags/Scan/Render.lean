/-
# Written results

A tree of tags and a scan report in each of the three formats. In the flat format every value is a
line of its whole key, an equals sign and the value, which in a report follows the place of the
comment.
-/

import DocTags.Scan.Report
import DocTags.Tree.Drawing
import DocTags.Tree.Entries
import DocTags.Tree.Json

namespace DocTags

namespace Tree

/-- One value as a line of the flat format. -/
def flatLine (entry : Text × Text) : Text :=
  entry.1 ++ '=' :: entry.2

/-- A tree in the flat format. -/
def flat (tree : Tree) : Text :=
  Text.joinWith ['\n'] (tree.entries.map flatLine)

/-- A tree in a format. Only a drawing has a label. -/
def render (label : Text) (format : Format) (tree : Tree) : Text :=
  match format with
  | .tree => tree.draw label
  | .json => tree.toJson.pretty
  | .flat => tree.flat

end Tree

namespace Match

/-- The place of a match: its file and its line. -/
def place (found : Match) : Text :=
  found.path.text ++ ':' :: Text.ofNat found.line

/-- The lines of a match in the flat format. -/
def flatLines (found : Match) : List Text :=
  found.tags.entries.map fun entry => found.place ++ [':', ' '] ++ Tree.flatLine entry

/-- The JSON value of a match. -/
def toJson (found : Match) : Json :=
  .object [("path".toList, .str found.path.text), ("line".toList, .number found.line),
    ("tags".toList, found.tags.toJson)]

end Match

namespace Report

/-- The JSON value of a report. -/
def toJson (report : Report) : Json :=
  .object [("files_scanned".toList, .number report.filesScanned),
    ("files_skipped".toList, .number report.filesSkipped),
    ("matches".toList, .array (report.found.map Match.toJson))]

/-- A report in a format. -/
def render (format : Format) (report : Report) : Text :=
  match format with
  | .tree => Text.joinWith ['\n'] (report.found.map fun found => found.tags.draw found.place)
  | .json => report.toJson.pretty
  | .flat => Text.joinWith ['\n'] (report.found.flatMap Match.flatLines)

end Report

end DocTags
