/-
# Drawn trees

A tree drawn with box characters: under its label one line for each value and each group of the
root, values first, and below a group its own lines, indented by a column that runs down as long
as further lines of the same node follow.
-/

import DocTags.Text.Blank
import DocTags.Text.Quoted
import DocTags.Tree.Basic

namespace DocTags.Tree

/-- The four columns that lead to an item. -/
def branch (last : Bool) : Text :=
  if last then ['└', '─', '─', ' '] else ['├', '─', '─', ' ']

/-- The four columns that run beside the lines below an item. -/
def trunk (last : Bool) : Text :=
  if last then [' ', ' ', ' ', ' '] else ['│', ' ', ' ', ' ']

/-- The lines of the values of a node; `more` says that groups follow them. -/
def valueLines (more : Bool) : List (Text × Text) → List Text
  | [] => []
  | (name, value) :: rest =>
    (branch (rest.isEmpty && !more) ++ name ++ [' ', '=', ' '] ++ Text.quoted value) ::
      valueLines more rest

mutual

/-- The lines below the label of a tree. -/
def lines : Tree → List Text
  | node values groups => valueLines (!groups.isEmpty) values ++ groupLines groups

/-- The lines of the groups of a node. -/
def groupLines : List (Text × Tree) → List Text
  | [] => []
  | (name, group) :: rest =>
    (branch rest.isEmpty ++ name) :: ((lines group).map (trunk rest.isEmpty ++ ·)) ++
      groupLines rest

end

/-- The drawing of a tree under a label, without blank characters at its end. -/
def draw (label : Text) (tree : Tree) : Text :=
  Text.trimEnd Text.isBlank (Text.unlines (label :: tree.lines))

end DocTags.Tree
