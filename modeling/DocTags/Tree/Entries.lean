/-
# The entries of a tree

All values of a tree under their whole keys, in the order in which the tree is read: the values of
a node before those of its groups, and the groups one after the other.
-/

import DocTags.Tree.Basic

namespace DocTags.Tree

mutual

/-- The values of the tree under their whole keys. -/
def entries : Tree → List (Text × Text)
  | node values groups => values ++ groupEntries groups

/-- The values below some groups, each key led by the name of its group. -/
def groupEntries : List (Text × Tree) → List (Text × Text)
  | [] => []
  | (name, group) :: rest =>
    (entries group).map (fun (key, value) => (name ++ '-' :: key, value)) ++ groupEntries rest

end

end DocTags.Tree
