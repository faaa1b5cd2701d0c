/-
# Document order

The nodes of a parsed tree are those that the keys of its tags lead through, and the names of each
node stand in the order in which the tags of the document name them first. Setting a value changes
one node on the way of its key at a time: what is named there for the first time goes to the end,
and nothing else moves. So the order of a node is decided by the tags that pass it or end in it, and
tags of other groups between them do not matter.
-/

import DocTags.Proofs.Comment.Envelope
import DocTags.Proofs.Tree.Lookup
import Mathlib.Data.List.Induction

namespace DocTags

namespace Tag

/-- The name of the value that a tag sets in the node at a path, if it sets one there. -/
def leaf? (path : List Text) (tag : Tag) : Option Text :=
  match path.isPrefixOf? tag.path with
  | some [leaf] => some leaf
  | _ => none

/-- The name of the group through which a tag goes on from a path, if it goes through one. -/
def branch? (path : List Text) (tag : Tag) : Option Text :=
  match path.isPrefixOf? tag.path with
  | some (name :: _ :: _) => some name
  | _ => none

variable {path : List Text} {tag : Tag} {name next : Text} {rest : List Text}

theorem leaf?_eq_some_iff : tag.leaf? path = some name ↔ tag.path = path ++ [name] := by
  rw [@eq_comm _ tag.path, ← List.isPrefixOf?_eq_some_iff_append_eq, leaf?]
  split
  · next leaf behind => simp [behind]
  · next other => exact ⟨nofun, fun behind => (other name behind).elim⟩

theorem branch?_eq_some_iff :
    tag.branch? path = some name ↔ ∃ next rest, tag.path = path ++ name :: next :: rest := by
  simp only [@eq_comm _ tag.path, ← List.isPrefixOf?_eq_some_iff_append_eq, branch?]
  split
  · next first next rest behind => simp [behind]
  · next other => exact ⟨nofun, fun ⟨next, rest, behind⟩ => (other name next rest behind).elim⟩

/-- A tag that does not go on behind a path names nothing there. -/
theorem leaf?_branch?_of_apart (apart : ∀ name rest, tag.path ≠ path ++ name :: rest) :
    tag.leaf? path = none ∧ tag.branch? path = none := by
  refine ⟨Option.eq_none_iff_forall_ne_some.mpr fun name found => ?_,
    Option.eq_none_iff_forall_ne_some.mpr fun name found => ?_⟩
  · exact apart name [] (leaf?_eq_some_iff.mp found)
  · obtain ⟨next, rest, cut⟩ := branch?_eq_some_iff.mp found
    exact apart name (next :: rest) cut

/-- A tag that sets a value at a path goes through no group there. -/
theorem branch?_of_leaf (cut : tag.path = path ++ [name]) : tag.branch? path = none := by
  apply Option.eq_none_iff_forall_ne_some.mpr
  intro other found
  obtain ⟨next, rest, long⟩ := branch?_eq_some_iff.mp found
  simp [cut] at long

/-- A tag that goes through a group below a path sets no value there. -/
theorem leaf?_of_branch (cut : tag.path = path ++ name :: next :: rest) :
    tag.leaf? path = none := by
  apply Option.eq_none_iff_forall_ne_some.mpr
  intro other found
  have short := leaf?_eq_some_iff.mp found
  simp [cut] at short

end Tag

namespace Tree

/-- The node that a list of group names leads to. -/
def nodeAt? : List Text → Tree → Option Tree
  | [], tree => some tree
  | name :: path, tree => (tree.groups.lookup name).bind (nodeAt? path)

/-- Plain names are followed one level at a time to the same node. -/
theorem follow_of_plain {path : List Text} (plain : ∀ name ∈ path, '-' ∉ name) (tree : Tree) :
    tree.follow path = .ok (tree.nodeAt? path) := by
  induction path generalizing tree with
  | nil => rfl
  | cons name path ih =>
      obtain ⟨namePlain, pathPlain⟩ := List.forall_mem_cons.mp plain
      have group : tree.group name = .ok (tree.groups.lookup name) := by
        rw [Tree.group, checkName, if_neg namePlain]
        rfl
      rw [follow, group, nodeAt?]
      cases found : tree.groups.lookup name with
      | none => rfl
      | some inner => exact ih pathPlain inner

/-! ## Setting one value -/

theorem getD_nodeAt?_empty (path : List Text) : (empty.nodeAt? path).getD empty = empty := by
  cases path <;> rfl

/-- A value that is set below a path is set at its node, which is made if there is none. -/
theorem nodeAt?_insertAt_of_below {path key : List Text} {name : Text} {rest : List Text}
    (below : key = path ++ name :: rest) (value : Text) (tree : Tree) :
    (insertAt value key tree).nodeAt? path =
      some (insertAt value (name :: rest) ((tree.nodeAt? path).getD empty)) := by
  subst below
  induction path generalizing tree with
  | nil => rfl
  | cons first path ih =>
      obtain ⟨values, groups⟩ := tree
      obtain ⟨next, more, cut⟩ := List.exists_cons_of_ne_nil
        (show path ++ name :: rest ≠ [] by simp)
      rw [cut] at ih
      rw [List.cons_append, cut, insertAt, nodeAt?, nodeAt?]
      simp only [Tree.groups, Assoc.lookup_alter, if_true, Option.bind_some, ih]
      cases groups.lookup first with
      | none => simp [getD_nodeAt?_empty]
      | some group => rfl

/-- A value that is set elsewhere leaves the node at a path as it is. A group that is made on the
way is not the end of the path, so that nothing is there yet. -/
theorem nodeAt?_insertAt_of_apart {path key : List Text}
    (apart : ∀ name rest, key ≠ path ++ name :: rest) (value : Text) (tree : Tree) :
    (insertAt value key tree).nodeAt? path = tree.nodeAt? path := by
  induction path generalizing key tree with
  | nil =>
      cases key with
      | nil => rfl
      | cons name rest => exact absurd rfl (apart name rest)
  | cons first path ih =>
      obtain ⟨values, groups⟩ := tree
      match key with
      | [] => rfl
      | [leaf] => rfl
      | name :: next :: rest =>
          rw [insertAt, nodeAt?, nodeAt?]
          simp only [Tree.groups, Assoc.lookup_alter]
          by_cases same : first = name
          · subst same
            have innerApart : ∀ name more, next :: rest ≠ path ++ name :: more := by
              intro name more cut
              exact apart name more (by rw [cut, List.cons_append])
            rw [if_pos rfl, Option.bind_some, ih innerApart]
            cases groups.lookup first with
            | some group => rfl
            | none =>
                cases path with
                | nil => exact absurd rfl (innerApart next rest)
                | cons second path => rfl
          · rw [if_neg same]

end Tree

/-! ## All tags of a comment -/

/-- Names that stand in the order of their first mention still do after one more is mentioned. -/
theorem Assoc.names_alter_of_eraseDups {α β : Type} [DecidableEq α] [BEq α] [LawfulBEq α]
    {mentioned : List α} {pairs : List (α × β)} (first : names pairs = mentioned.eraseDups)
    (name : α) (change : Option β → β) :
    names (alter name change pairs) = (mentioned ++ [name]).eraseDups := by
  rw [names_alter, first, List.eraseDups_append]
  by_cases known : name ∈ mentioned <;> simp [known, List.removeAll, List.eraseDups_cons]

namespace Comment

open DocTags.Tree Tag

/-- One more tag sets one more value. -/
theorem treeOf_append_singleton (tags : List Tag) (tag : Tag) :
    treeOf (tags ++ [tag]) = insertAt tag.value tag.path (treeOf tags) := by
  rw [treeOf, List.foldl_append]
  rfl

/-- There is a node at the root, and at every path that a tag goes through. -/
theorem isSome_nodeAt?_treeOf (path : List Text) (tags : List Tag) :
    ((treeOf tags).nodeAt? path).isSome ↔
      path = [] ∨ ∃ tag ∈ tags, ∃ name rest, tag.path = path ++ name :: rest := by
  induction tags using List.reverseRecOn with
  | nil => cases path <;> simp [treeOf, nodeAt?, Tree.empty, Tree.groups]
  | append_singleton tags tag ih =>
      rw [treeOf_append_singleton]
      by_cases below : ∃ name rest, tag.path = path ++ name :: rest
      · obtain ⟨name, rest, cut⟩ := below
        rw [nodeAt?_insertAt_of_below cut]
        simp only [Option.isSome_some, true_iff]
        exact Or.inr ⟨tag, by simp, name, rest, cut⟩
      · rw [nodeAt?_insertAt_of_apart (fun name rest cut => below ⟨name, rest, cut⟩), ih]
        simp [or_and_right, exists_or, below]

/-- The names of the node at a path are those that the tags name there, the first time each. -/
theorem names_nodeAt?_treeOf (path : List Text) (tags : List Tag) :
    Assoc.names (((treeOf tags).nodeAt? path).getD Tree.empty).values =
        (tags.filterMap (leaf? path)).eraseDups ∧
      Assoc.names (((treeOf tags).nodeAt? path).getD Tree.empty).groups =
        (tags.filterMap (branch? path)).eraseDups := by
  induction tags using List.reverseRecOn with
  | nil =>
      rw [treeOf, List.foldl_nil, getD_nodeAt?_empty]
      exact ⟨rfl, rfl⟩
  | append_singleton tags tag ih =>
      simp only [treeOf_append_singleton, List.filterMap_append, List.filterMap_cons,
        List.filterMap_nil]
      by_cases below : ∃ name rest, tag.path = path ++ name :: rest
      · obtain ⟨name, rest, cut⟩ := below
        rw [nodeAt?_insertAt_of_below cut, Option.getD_some]
        generalize ((treeOf tags).nodeAt? path).getD Tree.empty = node at ih ⊢
        obtain ⟨values, groups⟩ := node
        cases rest with
        | nil =>
            rw [leaf?_eq_some_iff.mpr cut, branch?_of_leaf cut]
            simp only [List.append_nil]
            exact ⟨Assoc.names_alter_of_eraseDups ih.1 name _, ih.2⟩
        | cons next rest =>
            rw [leaf?_of_branch cut, branch?_eq_some_iff.mpr ⟨next, rest, cut⟩]
            simp only [List.append_nil]
            exact ⟨ih.1, Assoc.names_alter_of_eraseDups ih.2 name _⟩
      · have apart : ∀ name rest, tag.path ≠ path ++ name :: rest :=
          fun name rest cut => below ⟨name, rest, cut⟩
        obtain ⟨noLeaf, noBranch⟩ := leaf?_branch?_of_apart apart
        rw [nodeAt?_insertAt_of_apart apart, noLeaf, noBranch]
        simp only [List.append_nil]
        exact ih

/-- **Document order.** In the tree of a text that parses, there is a node at a path of group names
if the path is empty or a tag of the body goes on behind it, and otherwise none. The values of the
node have the names that tags set there, and its groups those through which tags go on, both in the
order of their first mention and without repetition. Plain names lead to the node one at a time. -/
theorem parse_documentOrder {text : Text} {tree : Tree} (parsed : parse text = .ok tree) :
    ∃ inner, (∀ other, Holds text other ↔ other = inner) ∧ ∀ path : List Text,
      ((∃ node, tree.nodeAt? path = some node) ↔
        path = [] ∨ ∃ tag ∈ Tag.ofBody inner, ∃ name rest, tag.path = path ++ name :: rest) ∧
      (∀ node, tree.nodeAt? path = some node →
        Assoc.names node.values = ((Tag.ofBody inner).filterMap (Tag.leaf? path)).eraseDups ∧
          Assoc.names node.groups =
            ((Tag.ofBody inner).filterMap (Tag.branch? path)).eraseDups) ∧
      ((∀ name ∈ path, '-' ∉ name) → tree.follow path = .ok (tree.nodeAt? path)) := by
  obtain ⟨inner, read, rfl⟩ := parse_eq_ok_iff.mp parsed
  have only : ∀ other, Holds text other ↔ other = inner := by
    intro other
    rw [← body_eq_ok_iff, read, Except.ok.injEq, eq_comm]
  refine ⟨inner, only, fun path => ⟨?_, fun node here => ?_, fun plain => follow_of_plain plain _⟩⟩
  · rw [← Option.isSome_iff_exists]
    exact isSome_nodeAt?_treeOf path _
  · have names := names_nodeAt?_treeOf path (Tag.ofBody inner)
    rwa [here] at names

/-- Tags of a group with others between them, one of them set again, and a value of the same name as
the group. -/
theorem parse_documentOrder_of_interleaved :
    ∃ tree, parse "/**\n@g-x 1\n@a\n@g-h-y\n@-z\n@g-w\n@g-x 2\n@g*/".toList = .ok tree ∧
      (∃ node, tree.nodeAt? [] = some node ∧ Assoc.names node.values = [['a'], ['g']] ∧
        Assoc.names node.groups = [['g'], []]) ∧
      (∃ node, tree.nodeAt? [['g']] = some node ∧ Assoc.names node.values = [['x'], ['w']] ∧
        Assoc.names node.groups = [['h']]) ∧
      ¬ ∃ node, tree.nodeAt? [['g'], ['x']] = some node := by
  obtain ⟨tree, parsed⟩ : ∃ tree,
      parse "/**\n@g-x 1\n@a\n@g-h-y\n@-z\n@g-w\n@g-x 2\n@g*/".toList = .ok tree := ⟨_, rfl⟩
  obtain ⟨inner, only, order⟩ := parse_documentOrder parsed
  obtain rfl := (only "\n@g-x 1\n@a\n@g-h-y\n@-z\n@g-w\n@g-x 2\n@g".toList).mp (by decide)
  refine ⟨tree, parsed, ?_, ?_, ?_⟩
  · obtain ⟨node, here⟩ := (order []).1.mpr (Or.inl rfl)
    obtain ⟨values, groups⟩ := (order []).2.1 node here
    exact ⟨node, here, values.trans (by decide), groups.trans (by decide)⟩
  · have through : ∃ tag ∈ Tag.ofBody "\n@g-x 1\n@a\n@g-h-y\n@-z\n@g-w\n@g-x 2\n@g".toList,
        ∃ name rest, tag.path = [['g']] ++ name :: rest :=
      ⟨⟨"g-x".toList, ['1']⟩, by decide, ['x'], [], by decide⟩
    obtain ⟨node, here⟩ := (order [['g']]).1.mpr (Or.inr through)
    obtain ⟨values, groups⟩ := (order [['g']]).2.1 node here
    exact ⟨node, here, values.trans (by decide), groups.trans (by decide)⟩
  · have none : ∀ tag ∈ Tag.ofBody "\n@g-x 1\n@a\n@g-h-y\n@-z\n@g-w\n@g-x 2\n@g".toList,
        ¬ ([['g'], ['x']] <+: tag.path ∧ 2 < tag.path.length) := by decide
    rintro ⟨node, here⟩
    obtain empty | ⟨tag, member, name, rest, cut⟩ := (order [['g'], ['x']]).1.mp ⟨node, here⟩
    · cases empty
    · exact none tag member ⟨⟨name :: rest, cut.symm⟩, by simp [cut]⟩

end Comment

end DocTags
