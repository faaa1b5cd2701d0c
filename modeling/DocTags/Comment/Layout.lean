/-
# Laying out a comment

A list of lines set as a doc comment of several lines, each behind one asterisk.
-/

import DocTags.Comment.Parse

namespace DocTags.Comment

/-- One line behind its asterisk; an empty line has no space after it. -/
def layoutLine (line : Text) : Text :=
  match line with
  | [] => [' ', '*', '\n']
  | _ => [' ', '*', ' '] ++ line ++ ['\n']

/-- The comment with the given lines. -/
def layout (lines : List Text) : Text :=
  opening ++ ['\n'] ++ lines.flatMap layoutLine ++ [' '] ++ closing

end DocTags.Comment
