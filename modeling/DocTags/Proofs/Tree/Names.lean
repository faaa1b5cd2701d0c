/-
# Names at every depth

A name comes into a tree as a component of a key, at whatever depth it stands. So what holds of all
components of the keys that are inserted holds of all names of the tree. The names of a parsed tree
have neither gaps nor newlines, since its keys have none.
-/

import DocTags.Proofs.Comment.Layout
import DocTags.Proofs.Tree.Lookup

namespace DocTags

namespace Tree

variable {p : Text → Prop}

/-- Every name of a value or of a group, at any depth, has a property. -/
inductive NamesAll (p : Text → Prop) : Tree → Prop where
  | node {values : List (Text × Text)} {groups : List (Text × Tree)}
    (ofValues : ∀ name ∈ Assoc.names values, p name)
    (ofGroups : ∀ name ∈ Assoc.names groups, p name)
    (below : ∀ name group, (name, group) ∈ groups → NamesAll p group) :
    NamesAll p (.node values groups)

theorem NamesAll.empty : NamesAll p Tree.empty :=
  .node (by simp [Assoc.names]) (by simp [Assoc.names]) (by simp)

/-- Changing one group adds its name, and otherwise the names that the change adds. -/
theorem NamesAll.changeGroup {tree : Tree} (all : NamesAll p tree) {name : Text} (holds : p name)
    {change : Tree → Tree} (step : ∀ group, NamesAll p group → NamesAll p (change group)) :
    NamesAll p (tree.changeGroup name change) := by
  cases all with
  | @node values groups ofValues ofGroups below =>
      refine .node ofValues ?_ fun other group member => ?_
      · intro other member
        rcases (Assoc.mem_names_alter _ _ _ _).mp member with same | old
        · rwa [same]
        · exact ofGroups other old
      · rcases Assoc.mem_alter member with old | new
        · exact below other group old
        · obtain ⟨-, rfl⟩ := Prod.mk.inj new
          apply step
          cases found : (Tree.node values groups).groups.lookup name with
          | none => exact .empty
          | some group => exact below name group (Assoc.mem_of_lookup found)

/-- Inserting a value adds no other names than the components of its key. -/
theorem NamesAll.insert {tree : Tree} (all : NamesAll p tree) {key : Text}
    (parts : ∀ name ∈ components key, p name) (value : Text) :
    NamesAll p (tree.insert key value) := by
  induction key using key_induction generalizing tree with
  | single name plain =>
      obtain ⟨ofValues, ofGroups, below⟩ := all
      rw [components_of_plain plain] at parts
      rw [insert_of_plain plain]
      refine .node ?_ ofGroups below
      intro other member
      rcases (Assoc.mem_names_alter _ _ _ _).mp member with same | old
      · exact parts other (by simp [same])
      · exact ofValues other old
  | qualified name rest plain ih =>
      rw [components_qualified plain] at parts
      obtain ⟨first, later⟩ := List.forall_mem_cons.mp parts
      rw [insert_qualified plain]
      exact all.changeGroup first fun group groupAll => ih groupAll later

end Tree

namespace Comment

/-- The names of the tree of some tags are components of their keys. -/
theorem namesAll_treeOf {p : Text → Prop} {tags : List Tag}
    (parts : ∀ tag ∈ tags, ∀ name ∈ tag.path, p name) : Tree.NamesAll p (treeOf tags) :=
  List.foldlRecOn tags _ .empty fun _ all tag member => all.insert (parts tag member) tag.value

/-- The names of a parsed tree have neither gaps nor newlines. -/
theorem namesAll_of_parse {text : Text} {tree : Tree} (parsed : parse text = .ok tree) :
    Tree.NamesAll Tag.IsUnbroken tree := by
  obtain ⟨inner, -, rfl⟩ := parse_eq_ok_iff.mp parsed
  apply namesAll_treeOf
  intro tag member name component c inName
  exact (Tag.isWritable_of_mem_ofBody member).key c (Text.subset_of_mem_splitOn component inName)

end Comment

end DocTags
