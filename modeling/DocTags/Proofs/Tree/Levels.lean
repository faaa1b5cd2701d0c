/-
# Keys level by level

There is one way to cut a key into names without hyphens. The names that come out lead, taken one
level at a time, to the place that the whole key leads to: looking up goes through the groups and
then to a value, and inserting makes the groups on the way. No name is refused, since none of them
has a hyphen, and this holds of every tree, whatever names stand in it.
-/

import DocTags.Proofs.Except
import DocTags.Proofs.Tree.DocumentOrder
import DocTags.Proofs.Tree.Reachable

namespace DocTags

/-! ## The names of a key -/

/-- Some names without hyphens are a key, with a hyphen between neighbours. -/
structure MakeUp (names : List Text) (key : Text) : Prop where
  present : names ≠ []
  plain : ∀ name ∈ names, '-' ∉ name
  joined : Text.joinWith ['-'] names = key

/-- The components of a key make it up, and no other names do. -/
theorem makeUp_iff {names : List Text} {key : Text} :
    MakeUp names key ↔ names = components key := by
  constructor
  · intro ⟨present, plain, joined⟩
    rw [← joined, components, Text.splitOn_joinWith present plain]
  · rintro rfl
    exact ⟨Text.splitOn_ne_nil '-' key, fun _ => Text.not_mem_of_mem_splitOn,
      Text.joinWith_splitOn '-' key⟩

/-- The components of a key are the plain names of some groups and then that of a value. -/
theorem exists_components (key : Text) :
    ∃ path leaf, components key = path ++ [leaf] ∧ (∀ name ∈ path, '-' ∉ name) ∧ '-' ∉ leaf := by
  have madeUp : MakeUp (components key) key := makeUp_iff.mpr rfl
  obtain nil | ⟨path, leaf, cut⟩ := List.eq_nil_or_concat' (components key)
  · exact absurd nil madeUp.present
  · have plain := madeUp.plain
    rw [cut] at plain
    exact ⟨path, leaf, cut, fun name member => plain name (List.mem_append_left _ member),
      plain leaf (List.mem_append_right _ (List.mem_singleton_self leaf))⟩

/-- What stands before the last hyphen of a key has the components before the last one. -/
theorem components_before_leaf {path : List Text} {front leaf : Text} (plain : '-' ∉ leaf)
    (cut : components (front ++ '-' :: leaf) = path ++ [leaf]) : components front = path := by
  rw [components, Text.splitOn_append_separator, Text.splitOn_of_not_mem plain] at cut
  exact List.append_cancel_right cut

namespace Tree

variable {path rest : List Text} {name leaf : Text}

/-! ## Looking up -/

/-- The value that names lead to, taken one level at a time: through groups, and then by the name of
the value. -/
def valueThrough (path : List Text) (leaf : Text) (tree : Tree) :
    Except NestedName (Option Text) := do
  match ← tree.follow path with
  | some last => last.value leaf
  | none => return none

/-- A lookup goes on in the node that the first names lead to. -/
theorem lookupAt_append (more : rest ≠ []) (tree : Tree) :
    lookupAt (path ++ rest) tree = (tree.nodeAt? path).bind (lookupAt rest) := by
  induction path generalizing tree with
  | nil => rfl
  | cons name path ih =>
      have longer : path ++ rest ≠ [] := List.append_ne_nil_of_right_ne_nil path more
      obtain ⟨next, later, cut⟩ := List.exists_cons_of_ne_nil longer
      rw [List.cons_append, cut, lookupAt, nodeAt?, ← cut, Option.bind_assoc]
      apply congrArg
      funext group
      exact ih group

theorem value_of_plain (plain : '-' ∉ name) (tree : Tree) :
    tree.value name = .ok (tree.values.lookup name) := by
  rw [value, checkName, if_neg plain]
  rfl

/-- Plain names are not refused, and lead to the value that all of them are looked up by. -/
theorem valueThrough_of_plain (pathPlain : ∀ name ∈ path, '-' ∉ name) (leafPlain : '-' ∉ leaf)
    (tree : Tree) : tree.valueThrough path leaf = .ok (lookupAt (path ++ [leaf]) tree) := by
  rw [valueThrough, follow_of_plain pathPlain, lookupAt_append (List.cons_ne_nil leaf [])]
  cases tree.nodeAt? path with
  | none => rfl
  | some last => exact value_of_plain leafPlain last

/-- A group that is missing on the way leaves nothing to be found. -/
theorem lookupAt_of_nodeAt?_eq_none {front : List Text} (before : front <+: path)
    {tree : Tree} (missing : tree.nodeAt? front = none) :
    lookupAt (path ++ [leaf]) tree = none := by
  obtain ⟨back, rfl⟩ := before
  rw [List.append_assoc, lookupAt_append (by simp), missing, Option.bind_none]

/-! ## Inserting -/

/-- The tree after a value is set one level at a time: each group is made, unless it is there, and
gone into, and the value is set in the last one. -/
def insertThrough (leaf value : Text) : List Text → Tree → Except NestedName Tree
  | [], tree => .ok (tree.insert leaf value)
  | name :: path, tree => do
    let made ← tree.ensureGroup name
    let group ← made.group name
    let changed ← insertThrough leaf value path (group.getD empty)
    return node made.values (Assoc.put name changed made.groups)

theorem group_of_plain (plain : '-' ∉ name) (tree : Tree) :
    tree.group name = .ok (tree.groups.lookup name) := by
  rw [group, checkName, if_neg plain]
  rfl

/-- A group that was made is there. -/
theorem lookup_changeGroup (name : Text) (change : Tree → Tree) (tree : Tree) :
    (tree.changeGroup name change).groups.lookup name =
      some (change ((tree.groups.lookup name).getD empty)) := by
  rw [changeGroup, groups, Assoc.lookup_alter, if_pos rfl]

/-- To change a group is to make it and to put what becomes of it in its place. -/
theorem put_changeGroup (name : Text) (change : Tree → Tree) (tree : Tree) :
    node (tree.changeGroup name id).values
        (Assoc.put name (change ((tree.groups.lookup name).getD empty))
          (tree.changeGroup name id).groups) =
      tree.changeGroup name change := by
  have replaced := Assoc.alter_alter name (fun group => id (group.getD empty))
    (fun _ => change ((tree.groups.lookup name).getD empty)) tree.groups
  have put := Assoc.put_lookup_eq_alter name (fun group => change (group.getD empty)) tree.groups
  show node tree.values (Assoc.alter name _ (Assoc.alter name _ tree.groups)) =
    node tree.values (Assoc.alter name _ tree.groups)
  rw [replaced, ← put]
  rfl

/-- A value that is set behind a plain name is set in the group of that name. -/
theorem insertAt_cons (more : rest ≠ []) (value : Text) (tree : Tree) :
    insertAt value (name :: rest) tree = tree.changeGroup name (insertAt value rest) := by
  obtain ⟨next, later, rfl⟩ := List.exists_cons_of_ne_nil more
  cases tree with
  | node values groups => rfl

/-- Plain names are not refused, and the value is set where all of them lead. -/
theorem insertThrough_of_plain (pathPlain : ∀ name ∈ path, '-' ∉ name) (leafPlain : '-' ∉ leaf)
    (value : Text) (tree : Tree) :
    tree.insertThrough leaf value path = .ok (insertAt value (path ++ [leaf]) tree) := by
  induction path generalizing tree with
  | nil => rw [insertThrough, insert, components_of_plain leafPlain, List.nil_append]
  | cons name path ih =>
      obtain ⟨namePlain, restPlain⟩ := List.forall_mem_cons.mp pathPlain
      have longer : path ++ [leaf] ≠ [] := by simp
      rw [insertThrough, ensureGroup_of_plain namePlain, ok_bind, group_of_plain namePlain, ok_bind,
        lookup_changeGroup, Option.getD_some, ih restPlain, ok_bind, id, put_changeGroup,
        List.cons_append, insertAt_cons longer]
      rfl

/-! ## Whole keys -/

/-- **Keys level by level.** In every tree and for every key there is one way to cut the key into
names without hyphens: those of the groups that lead to a value, which are the components of what
stands before the last hyphen, and that of the value. Taken one level at a time, these names are
not refused. They lead to the value that the whole key is looked up by, and to none as soon as a
group is missing, and setting a value through them gives the tree that inserting it does, where it
is found under the key and every other key is as before. -/
theorem lookup_insert_by_levels (key value : Text) (tree : Tree) :
    ∃ path leaf,
      (∀ names, MakeUp names key ↔ names = path ++ [leaf]) ∧
      (∀ front, key = front ++ '-' :: leaf → components front = path) ∧
      Tag.path ⟨key, value⟩ = path ++ [leaf] ∧
      tree.valueThrough path leaf = .ok (tree.lookup key) ∧
      (∀ front, front <+: path →
        ∃ found, tree.follow front = .ok found ∧ (found = none → tree.lookup key = none)) ∧
      tree.insertThrough leaf value path = .ok (tree.insert key value) ∧
      (tree.insert key value).lookup key = some value ∧
      ∀ other, other ≠ key → (tree.insert key value).lookup other = tree.lookup other := by
  obtain ⟨path, leaf, cut, pathPlain, leafPlain⟩ := exists_components key
  have found : lookupAt (path ++ [leaf]) tree = tree.lookup key := by rw [lookup, cut]
  refine ⟨path, leaf, ?_, ?_, cut, ?_, ?_, ?_, ?_, ?_⟩
  · intro names
    rw [makeUp_iff, cut]
  · rintro front rfl
    exact components_before_leaf leafPlain cut
  · rw [valueThrough_of_plain pathPlain leafPlain, found]
  · intro front before
    refine ⟨_, follow_of_plain (fun name member => pathPlain name (before.subset member)) tree, ?_⟩
    intro missing
    rw [← found]
    exact lookupAt_of_nodeAt?_eq_none before missing
  · rw [insertThrough_of_plain pathPlain leafPlain, insert, cut]
  · rw [lookup_insert, if_pos rfl]
  · intro other differs
    rw [lookup_insert, if_neg differs]

/-- A tree with a hyphen in the names of a value and of a group, and a key whose first component is
empty. The hyphenated value is not found, neither before nor after. -/
theorem lookup_insert_by_levels_of_hyphenated_names :
    let tree := node [("a-b".toList, ['1'])]
      [("a-b".toList, empty), ([], node [] [(['a'], node [(['b'], ['2'])] [])])]
    let changed := tree.insert "-a-b".toList ['3']
    MakeUp [[], ['a'], ['b']] "-a-b".toList ∧ components "-a".toList = [[], ['a']] ∧
      tree.valueThrough [[], ['a']] ['b'] = .ok (some ['2']) ∧
      (∃ found, tree.follow [[]] = .ok found ∧
        (found = none → tree.lookup "-a-b".toList = none)) ∧
      tree.insertThrough ['b'] ['3'] [[], ['a']] = .ok changed ∧
      changed.lookup "-a-b".toList = some ['3'] ∧ changed.lookup "a-b".toList = none := by
  intro tree changed
  obtain ⟨path, leaf, names, before, -, value, missing, insert, found, others⟩ :=
    lookup_insert_by_levels "-a-b".toList ['3'] tree
  have madeUp : MakeUp [[], ['a'], ['b']] "-a-b".toList := ⟨by decide, by decide, by decide⟩
  have cut : [[], ['a']] ++ [['b']] = path ++ [leaf] := (names _).mp madeUp
  obtain ⟨rfl, last⟩ := List.append_inj' cut rfl
  obtain rfl := List.head_eq_of_cons_eq last
  exact ⟨madeUp, before "-a".toList rfl, value, missing [[]] (by decide), insert, found,
    others "a-b".toList (by decide)⟩

end Tree

end DocTags
