/-
# Keys and what they lead to

A key is a single name, or the name of a group, a hyphen and a shorter key. Read in this way,
inserting and looking up go down one group at a time, and the law of lookup after insertion is an
induction over the key: an inserted value is found under its own key and under no other, in
whatever tree it was inserted.
-/

import DocTags.Proofs.Assoc
import DocTags.Proofs.Text.Pieces
import DocTags.Tree.Basic

namespace DocTags

/-! ## Keys -/

/-- A single name is its only component. -/
theorem components_of_plain {name : Text} (plain : '-' ∉ name) : components name = [name] :=
  Text.splitOn_of_not_mem plain

/-- The first component of a key is what stands before its first hyphen. -/
theorem components_qualified {name : Text} (plain : '-' ∉ name) (key : Text) :
    components (name ++ '-' :: key) = name :: components key :=
  Text.splitOn_append_cons plain key

/-- A key with a hyphen has a first hyphen. -/
theorem exists_qualified {key : Text} (hyphen : '-' ∈ key) :
    ∃ name rest, '-' ∉ name ∧ key = name ++ '-' :: rest := by
  obtain ⟨name, rest, cut, plain⟩ := List.eq_append_cons_of_mem hyphen
  exact ⟨name, rest, plain, cut⟩

/-- A key has one first hyphen, so that its first name and the rest are determined. -/
theorem qualified_inj {first second : Text} (firstPlain : '-' ∉ first) (secondPlain : '-' ∉ second)
    {rest other : Text} :
    first ++ '-' :: rest = second ++ '-' :: other ↔ first = second ∧ rest = other := by
  refine ⟨fun same => ?_, fun ⟨names, rests⟩ => by rw [names, rests]⟩
  have parts := congrArg components same
  rw [components_qualified firstPlain, components_qualified secondPlain] at parts
  obtain rfl := (List.cons.inj parts).1
  exact ⟨rfl, (List.cons.inj (List.append_cancel_left same)).2⟩

/-- Induction over a key goes from behind a hyphen to before it. -/
@[elab_as_elim]
theorem key_induction {motive : Text → Prop} (single : ∀ name, '-' ∉ name → motive name)
    (qualified : ∀ name rest, '-' ∉ name → motive rest → motive (name ++ '-' :: rest))
    (key : Text) : motive key := by
  by_cases hyphen : '-' ∈ key
  · obtain ⟨name, rest, plain, rfl⟩ := exists_qualified hyphen
    exact qualified name rest plain (key_induction single qualified rest)
  · exact single key hyphen
termination_by key.length
decreasing_by
  subst_vars
  simp only [List.length_append, List.length_cons]
  omega

namespace Tree

/-- Induction over a tree reaches a node after all its groups. -/
@[induction_eliminator]
theorem induction {motive : Tree → Prop}
    (node : ∀ values groups, (∀ name group, (name, group) ∈ groups → motive group) →
      motive (.node values groups)) (tree : Tree) : motive tree := by
  cases tree with
  | node values groups =>
      exact node values groups fun name group member => induction node group
termination_by sizeOf tree
decreasing_by
  have smaller := List.sizeOf_lt_of_mem member
  simp only [Prod.mk.sizeOf_spec] at smaller
  simp only [Tree.node.sizeOf_spec]
  omega

/-! ## One level at a time -/

/-- A single name is looked up among the values of the root. -/
theorem lookup_of_plain {name : Text} (plain : '-' ∉ name) (tree : Tree) :
    tree.lookup name = tree.values.lookup name := by
  rw [lookup, components_of_plain plain, lookupAt]

/-- A key with a hyphen is looked up in the group that it names first. -/
theorem lookup_qualified {name : Text} (plain : '-' ∉ name) (key : Text) (tree : Tree) :
    tree.lookup (name ++ '-' :: key) = (tree.groups.lookup name).bind (lookup key) := by
  rw [lookup, components_qualified plain]
  cases parts : components key with
  | nil => exact absurd parts (Text.splitOn_ne_nil '-' key)
  | cons next path =>
      rw [lookupAt, ← parts]
      rfl

/-- Nothing is found in the empty tree. -/
theorem lookup_empty (key : Text) : empty.lookup key = none := by
  induction key using key_induction with
  | single name plain => rw [lookup_of_plain plain]; rfl
  | qualified name rest plain ih => rw [lookup_qualified plain]; rfl

/-- The tree with one group of the root changed, from an empty one if there was none. -/
def changeGroup (name : Text) (change : Tree → Tree) (tree : Tree) : Tree :=
  node tree.values (Assoc.alter name (fun group => change (group.getD empty)) tree.groups)

/-- A single name is set among the values of the root. -/
theorem insert_of_plain {name : Text} (plain : '-' ∉ name) (value : Text) (tree : Tree) :
    tree.insert name value = node (Assoc.put name value tree.values) tree.groups := by
  cases tree with
  | node values groups =>
      rw [insert, components_of_plain plain, insertAt]
      rfl

/-- A key with a hyphen is set in the group that it names first. -/
theorem insert_qualified {name : Text} (plain : '-' ∉ name) (key value : Text) (tree : Tree) :
    tree.insert (name ++ '-' :: key) value = tree.changeGroup name (insert key value) := by
  cases tree with
  | node values groups =>
      rw [insert, components_qualified plain]
      cases parts : components key with
      | nil => exact absurd parts (Text.splitOn_ne_nil '-' key)
      | cons next path =>
          rw [insertAt, ← parts]
          rfl

/-- A tree is not empty after an insertion. -/
theorem isEmpty_insert (key value : Text) (tree : Tree) :
    (tree.insert key value).isEmpty = false := by
  by_cases hyphen : '-' ∈ key
  · obtain ⟨name, rest, plain, rfl⟩ := exists_qualified hyphen
    rw [insert_qualified plain, changeGroup, isEmpty, groups, Assoc.isEmpty_alter, Bool.and_false]
  · rw [insert_of_plain hyphen, isEmpty, values, Assoc.put, Assoc.isEmpty_alter, Bool.false_and]

/-! ## Lookup after insertion -/

/-- An inserted value is found under its own key and under no other. In one group the shorter keys
decide, whether or not the group was there before. -/
theorem lookup_insert (key other value : Text) (tree : Tree) :
    (tree.insert key value).lookup other =
      if other = key then some value else tree.lookup other := by
  induction key using key_induction generalizing other tree with
  | single name plain =>
      rw [insert_of_plain plain]
      by_cases hyphen : '-' ∈ other
      · obtain ⟨group, rest, groupPlain, rfl⟩ := exists_qualified hyphen
        have differs : group ++ '-' :: rest ≠ name := fun same => plain (same ▸ hyphen)
        rw [lookup_qualified groupPlain, lookup_qualified groupPlain, if_neg differs]
        rfl
      · rw [lookup_of_plain hyphen, lookup_of_plain hyphen]
        exact Assoc.lookup_put name other value tree.values
  | qualified name rest plain ih =>
      rw [insert_qualified plain]
      by_cases hyphen : '-' ∈ other
      · obtain ⟨group, later, groupPlain, rfl⟩ := exists_qualified hyphen
        rw [lookup_qualified groupPlain, lookup_qualified groupPlain, changeGroup, groups,
          Assoc.lookup_alter]
        simp only [qualified_inj groupPlain plain]
        by_cases same : group = name
        · subst same
          rw [if_pos rfl, Option.bind_some, ih]
          cases tree.groups.lookup group with
          | none => simp [lookup_empty]
          | some found => simp
        · simp [same]
      · have differs : other ≠ name ++ '-' :: rest := by
          intro same
          apply hyphen
          rw [same]
          simp
        rw [lookup_of_plain hyphen, lookup_of_plain hyphen, if_neg differs]
        rfl

end Tree

end DocTags
