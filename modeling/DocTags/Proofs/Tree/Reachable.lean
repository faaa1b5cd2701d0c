/-
# Trees that edits lead to

A tree starts empty or from a parsed comment and is changed by inserting values and by making
groups, at its root or at a node that is reached by making groups. Every edit goes down by
changing one group at a time, so that what one change keeps is kept by all of them: in every
reachable tree, names have no hyphens and stand once in their association, at every depth.
-/

import DocTags.Proofs.Comment.Envelope
import DocTags.Proofs.Tree.Lookup

namespace DocTags.Tree

/-! ## Well-named trees -/

/-- The names of an association have no hyphens and stand there once. -/
structure PlainNames {β : Type} (pairs : List (Text × β)) : Prop where
  plain : ∀ name ∈ Assoc.names pairs, '-' ∉ name
  distinct : (Assoc.names pairs).Nodup

/-- The names of values and the names of groups are plain at every depth. -/
inductive WellNamed : Tree → Prop where
  | node {values : List (Text × Text)} {groups : List (Text × Tree)}
    (plainValues : PlainNames values) (plainGroups : PlainNames groups)
    (below : ∀ name group, (name, group) ∈ groups → WellNamed group) :
    WellNamed (.node values groups)

theorem PlainNames.nil {β : Type} : PlainNames ([] : List (Text × β)) :=
  ⟨by simp [Assoc.names], by simp [Assoc.names]⟩

/-- Fewer names are plain names. -/
theorem PlainNames.of_sublist {β γ : Type} {pairs : List (Text × β)} {others : List (Text × γ)}
    (names : PlainNames pairs) (fewer : (Assoc.names others).Sublist (Assoc.names pairs)) :
    PlainNames others :=
  ⟨fun name member => names.plain name (fewer.subset member), fewer.nodup names.distinct⟩

/-- A name does not stand before itself. -/
theorem PlainNames.not_mem_before {β : Type} {before rest : List (Text × β)} {pair : Text × β}
    (names : PlainNames (before ++ pair :: rest)) : pair.1 ∉ Assoc.names before := by
  have distinct := names.distinct
  simp only [Assoc.names, List.map_append, List.map_cons, List.nodup_append] at distinct
  intro known
  exact distinct.2.2 pair.1 known pair.1 (by simp) rfl

/-- Changing what stands under a plain name keeps the names plain. -/
theorem PlainNames.alter {β : Type} {pairs : List (Text × β)} (names : PlainNames pairs)
    {name : Text} (plain : '-' ∉ name) (change : Option β → β) :
    PlainNames (Assoc.alter name change pairs) where
  plain other member := by
    rcases (Assoc.mem_names_alter name other change pairs).mp member with same | old
    · rwa [same]
    · exact names.plain other old
  distinct := Assoc.nodup_names_alter name change names.distinct

theorem WellNamed.empty : WellNamed Tree.empty :=
  .node .nil .nil (by simp)

/-- A group of a well-named tree, or the empty one in its place, is well named. -/
theorem WellNamed.getD_lookup {tree : Tree} (named : WellNamed tree) (name : Text) :
    WellNamed ((tree.groups.lookup name).getD Tree.empty) := by
  cases found : tree.groups.lookup name with
  | none => exact .empty
  | some group =>
      obtain ⟨-, -, below⟩ := named
      exact below name group (Assoc.mem_of_lookup found)

/-- Changing one group keeps a tree well named if the change keeps that group so. -/
theorem WellNamed.changeGroup {tree : Tree} (named : WellNamed tree) {name : Text}
    (plain : '-' ∉ name) {change : Tree → Tree}
    (step : ∀ group, WellNamed group → WellNamed (change group)) :
    WellNamed (tree.changeGroup name change) := by
  have changed := step _ (named.getD_lookup name)
  obtain ⟨plainValues, plainGroups, below⟩ := named
  refine .node plainValues (plainGroups.alter plain _) fun other group member => ?_
  rcases Assoc.mem_alter member with old | new
  · exact below other group old
  · obtain ⟨-, rfl⟩ := Prod.mk.inj new
    exact changed

/-- Inserting a value keeps a tree well named, whatever the key. -/
theorem WellNamed.insert {tree : Tree} (named : WellNamed tree) (key value : Text) :
    WellNamed (tree.insert key value) := by
  induction key using key_induction generalizing tree with
  | single name plain =>
      obtain ⟨plainValues, plainGroups, below⟩ := named
      rw [insert_of_plain plain]
      exact .node (plainValues.alter plain _) plainGroups below
  | qualified name rest plain ih =>
      rw [insert_qualified plain]
      exact named.changeGroup plain fun group groupNamed => ih groupNamed

/-! ## Edits -/

/-- An edit of the node that a list of group names leads to. -/
inductive Edit where
  /-- Set the value of a key. -/
  | insert (path : List Text) (key value : Text)
  /-- Make a group, unless there is one of that name. -/
  | ensureGroup (path : List Text) (name : Text)

/-- The tree after an edit. Groups on the way are made; those made before a refused name stay. -/
def Edit.apply : Edit → Tree → Tree
  | .insert path key value, tree =>
    (tree.editAt (fun node => (node.insert key value, .ok ())) path).1
  | .ensureGroup path name, tree =>
    (tree.editAt (fun node =>
      match node.ensureGroup name with
      | .ok changed => (changed, .ok ())
      | .error refused => (node, .error refused)) path).1

/-- The trees that edits lead to from the empty tree or from a parsed comment. -/
inductive Reachable : Tree → Prop where
  | empty : Reachable Tree.empty
  | parsed {text : Text} {tree : Tree} (success : Comment.parse text = .ok tree) : Reachable tree
  | edited {tree : Tree} (edit : Edit) (reached : Reachable tree) : Reachable (edit.apply tree)

/-- The trees that only insertions lead to from the empty tree or from a parsed comment. -/
inductive Inserted : Tree → Prop where
  | empty : Inserted Tree.empty
  | parsed {text : Text} {tree : Tree} (success : Comment.parse text = .ok tree) : Inserted tree
  | insert {tree : Tree} (key value : Text) (built : Inserted tree) :
    Inserted (tree.insert key value)

/-- Insertion at the root is an edit. -/
theorem Inserted.reachable {tree : Tree} (built : Inserted tree) : Reachable tree := by
  induction built with
  | empty => exact .empty
  | parsed success => exact .parsed success
  | insert key value _ ih => exact .edited (.insert [] key value) ih

/-- A group of a plain name is made by changing nothing in it. -/
theorem ensureGroup_of_plain {name : Text} (plain : '-' ∉ name) (tree : Tree) :
    tree.ensureGroup name = .ok (tree.changeGroup name id) := by
  simp only [ensureGroup, checkName, if_neg plain]
  rfl

/-- A hyphenated name is refused. -/
theorem ensureGroup_of_hyphen {name : Text} (hyphen : '-' ∈ name) (tree : Tree) :
    tree.ensureGroup name = .error ⟨name⟩ := by
  simp only [ensureGroup, checkName, if_pos hyphen]
  rfl

/-- An edit below a plain name changes that group. -/
theorem editAt_of_plain {α : Type} (edit : Tree → Tree × Except NestedName α) {name : Text}
    (plain : '-' ∉ name) (path : List Text) (tree : Tree) :
    (editAt edit (name :: path) tree).1 =
      tree.changeGroup name fun group => (editAt edit path group).1 := by
  cases tree with
  | node values groups =>
      simp only [editAt, checkName, if_neg plain, changeGroup]
      rw [← Assoc.put_lookup_eq_alter]
      rfl

/-- An edit below a hyphenated name changes nothing. -/
theorem editAt_of_hyphen {α : Type} (edit : Tree → Tree × Except NestedName α) {name : Text}
    (hyphen : '-' ∈ name) (path : List Text) (tree : Tree) :
    (editAt edit (name :: path) tree).1 = tree := by
  cases tree with
  | node values groups => simp [editAt, checkName, hyphen]

/-- What an edit keeps well named at a node, it keeps well named at the end of every path. -/
theorem WellNamed.editAt {α : Type} {edit : Tree → Tree × Except NestedName α}
    (step : ∀ node, WellNamed node → WellNamed (edit node).1) (path : List Text) {tree : Tree}
    (named : WellNamed tree) : WellNamed (tree.editAt edit path).1 := by
  induction path generalizing tree with
  | nil => exact step tree named
  | cons name path ih =>
      by_cases hyphen : '-' ∈ name
      · rwa [editAt_of_hyphen edit hyphen]
      · rw [editAt_of_plain edit hyphen]
        exact named.changeGroup hyphen fun group groupNamed => ih groupNamed

/-- An edit keeps a tree well named. -/
theorem WellNamed.apply {tree : Tree} (named : WellNamed tree) (edit : Edit) :
    WellNamed (edit.apply tree) := by
  cases edit with
  | insert path key value =>
      exact WellNamed.editAt (fun node nodeNamed => nodeNamed.insert key value) path named
  | ensureGroup path name =>
      refine WellNamed.editAt (fun node nodeNamed => ?_) path named
      by_cases hyphen : '-' ∈ name
      · rwa [ensureGroup_of_hyphen hyphen]
      · rw [ensureGroup_of_plain hyphen]
        exact nodeNamed.changeGroup hyphen fun group groupNamed => groupNamed

/-! ## Runs -/

/-- What holds of the empty tree and is kept by insertion holds of every parsed tree. -/
theorem parsed_induction {motive : Tree → Prop} (start : motive empty)
    (step : ∀ tree, motive tree → ∀ key value, motive (tree.insert key value)) {text : Text}
    {tree : Tree} (success : Comment.parse text = .ok tree) : motive tree := by
  obtain ⟨inner, -, rfl⟩ := Comment.parse_eq_ok_iff.mp success
  exact List.foldlRecOn _ _ start fun tree holds tag _ => step tree holds tag.key tag.value

/-- Every reachable tree is well named. -/
theorem Reachable.wellNamed {tree : Tree} (reached : Reachable tree) : WellNamed tree := by
  induction reached with
  | empty => exact .empty
  | parsed success => exact parsed_induction .empty (fun _ named => named.insert) success
  | edited edit _ ih => exact ih.apply edit

end DocTags.Tree
