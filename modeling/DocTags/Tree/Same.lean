/-
# Trees up to order

Two trees are the same tree of tags when they hold the same values and the same groups under the
same names, in whatever order the names came.
-/

import DocTags.Tree.Basic

namespace DocTags.Tree

/-- Whether two associations have as many names and every value of the first stands under the
same name in the second. -/
def sameValues (first second : List (Text × Text)) : Bool :=
  first.length == second.length &&
    first.all fun (name, value) => second.lookup name == some value

mutual

/-- Whether two trees are equal up to the order of values and groups at every node. -/
def same : Tree → Tree → Bool
  | node values groups, other =>
    sameValues values other.values &&
      groups.length == other.groups.length && sameGroups groups other.groups

/-- Whether every group has a group of the same name and content among the others. -/
def sameGroups : List (Text × Tree) → List (Text × Tree) → Bool
  | [], _ => true
  | (name, group) :: rest, others =>
    (match others.lookup name with
      | some other => same group other
      | none => false) && sameGroups rest others

end

end DocTags.Tree
