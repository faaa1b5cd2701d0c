/-
# Tag trees

The tags of one doc comment, arranged by the hyphens of their keys. A key such as `foo-bar-baz`
names the value `baz` in the group `bar` of the group `foo`. Values and groups are kept apart, so
that one node may hold a value and a group under the same name, and both keep the order in which
their names first came.

Two ways lead to a node. A whole key is cut at its hyphens and followed from the root; and the
single-level functions take one name at a time, refusing a name that would have to be cut.
-/

import DocTags.Assoc
import DocTags.Text.Basic

namespace DocTags

/-- A node: its values by name, and its groups by name. -/
inductive Tree where
  | node (values : List (Text × Text)) (groups : List (Text × Tree))

/-- A name with a hyphen, given where a single name is wanted. -/
structure NestedName where
  name : Text
deriving DecidableEq

/-- The components of a key: the groups that lead to the value, then the name of the value. -/
def components (key : Text) : List Text :=
  Text.splitOn '-' key

namespace Tree

/-- The tree without tags. -/
def empty : Tree :=
  node [] []

instance : Inhabited Tree :=
  ⟨empty⟩

/-- The values of the root, in order. -/
def values : Tree → List (Text × Text)
  | node values _ => values

/-- The groups of the root, in order. -/
def groups : Tree → List (Text × Tree)
  | node _ groups => groups

/-- Whether the root has neither a value nor a group. -/
def isEmpty (tree : Tree) : Bool :=
  tree.values.isEmpty && tree.groups.isEmpty

/-- Set the value that a list of components leads to, making the groups on the way. -/
def insertAt (value : Text) : List Text → Tree → Tree
  | [], tree => tree
  | [leaf], node values groups => node (Assoc.put leaf value values) groups
  | name :: next :: path, node values groups =>
    node values (Assoc.alter name (fun group => insertAt value (next :: path) (group.getD empty))
      groups)

/-- Set the value of a key, making the groups on the way. -/
def insert (key value : Text) (tree : Tree) : Tree :=
  insertAt value (components key) tree

/-- The tree of the given pairs, inserted in order. -/
def ofEntries (pairs : List (Text × Text)) : Tree :=
  pairs.foldl (fun tree (key, value) => tree.insert key value) empty

/-- The value that a list of components leads to. -/
def lookupAt : List Text → Tree → Option Text
  | [], _ => none
  | [leaf], tree => tree.values.lookup leaf
  | name :: next :: path, tree => (tree.groups.lookup name).bind (lookupAt (next :: path))

/-- The value of a key. -/
def lookup (key : Text) (tree : Tree) : Option Text :=
  lookupAt (components key) tree

/-- A name, unless it holds a hyphen. -/
def checkName (name : Text) : Except NestedName Text :=
  if '-' ∈ name then .error ⟨name⟩ else .ok name

/-- The group of the root with a name. -/
def group (name : Text) (tree : Tree) : Except NestedName (Option Tree) := do
  let name ← checkName name
  return tree.groups.lookup name

/-- The value of the root with a name. -/
def value (name : Text) (tree : Tree) : Except NestedName (Option Text) := do
  let name ← checkName name
  return tree.values.lookup name

/-- Whether the root has a value with a name. -/
def hasValue (name : Text) (tree : Tree) : Except NestedName Bool := do
  let value ← tree.value name
  return value.isSome

/-- The tree with a group of the given name at its root, an empty one if there was none. -/
def ensureGroup (name : Text) (tree : Tree) : Except NestedName Tree := do
  let name ← checkName name
  return node tree.values (Assoc.alter name (·.getD empty) tree.groups)

/-- The node that a list of group names leads to, taken one level at a time. -/
def follow : List Text → Tree → Except NestedName (Option Tree)
  | [], tree => .ok (some tree)
  | name :: path, tree => do
    match ← tree.group name with
    | some group => follow path group
    | none => return none

/-- Edit the node that a list of group names leads to, one level at a time and making the groups
on the way. Groups made before a refused name stay. -/
def editAt {α : Type} (edit : Tree → Tree × Except NestedName α) :
    List Text → Tree → Tree × Except NestedName α
  | [], tree => edit tree
  | name :: path, node values groups =>
    match checkName name with
    | .error refused => (node values groups, .error refused)
    | .ok name =>
      let (group, outcome) := editAt edit path ((groups.lookup name).getD empty)
      (node values (Assoc.put name group groups), outcome)

end Tree

end DocTags
