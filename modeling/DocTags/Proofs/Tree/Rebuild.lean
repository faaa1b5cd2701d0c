/-
# Rebuilding a tree from its entries

Inserting the entries of a tree one after the other into an empty tree gives the tree back, with
every order, except for the groups that have no value anywhere below them: such a group leaves no
entry. Insertion never makes one, so that a tree that only insertions built comes back whole.

The entries of one group stand together and inserting them changes that group alone, which makes
the whole run a run of the same kind inside the group. Since the groups of a node are rebuilt in
their own order and none is there before its first entry, each takes its old place.
-/

import DocTags.Proofs.Tree.Entries
import DocTags.Proofs.Tree.Same

namespace DocTags.Tree

/-! ## Groups without values -/

mutual

/-- Whether no value stands at the root or anywhere below it. -/
def isBare : Tree → Bool
  | node values groups => values.isEmpty && allBare groups

/-- Whether no value stands in any of some groups. -/
def allBare : List (Text × Tree) → Bool
  | [] => true
  | (_, group) :: rest => isBare group && allBare rest

end

mutual

/-- The tree without the groups that have no value anywhere below them. -/
def prune : Tree → Tree
  | node values groups => node values (pruneGroups groups)

/-- The groups that have a value somewhere below them, each of them pruned. -/
def pruneGroups : List (Text × Tree) → List (Text × Tree)
  | [] => []
  | (name, group) :: rest =>
    if isBare group then pruneGroups rest else (name, prune group) :: pruneGroups rest

end

/-- Some group, at the root or at any depth, has no value anywhere below it. -/
inductive HasBareGroup : Tree → Prop where
  | here {values : List (Text × Text)} {groups : List (Text × Tree)} {name : Text} {group : Tree}
    (member : (name, group) ∈ groups) (bare : group.isBare) : HasBareGroup (node values groups)
  | deeper {values : List (Text × Text)} {groups : List (Text × Tree)} {name : Text}
    {group : Tree} (member : (name, group) ∈ groups) (inside : HasBareGroup group) :
    HasBareGroup (node values groups)

theorem allBare_iff (groups : List (Text × Tree)) :
    allBare groups ↔ ∀ name group, (name, group) ∈ groups → group.isBare := by
  induction groups with
  | nil => simp [allBare]
  | cons pair rest ih =>
      obtain ⟨first, tree⟩ := pair
      simp only [allBare, Bool.and_eq_true, ih, List.mem_cons, Prod.mk.injEq]
      refine ⟨fun ⟨head, tail⟩ name group member => ?_, fun all => ⟨?_, ?_⟩⟩
      · rcases member with ⟨-, here⟩ | later
        · rwa [here]
        · exact tail name group later
      · exact all first tree (Or.inl ⟨rfl, rfl⟩)
      · intro name group later
        exact all name group (Or.inr later)

theorem pruneGroups_eq (groups : List (Text × Tree)) :
    pruneGroups groups =
      (groups.filter fun pair => !pair.2.isBare).map fun pair => (pair.1, pair.2.prune) := by
  induction groups with
  | nil => simp [pruneGroups]
  | cons pair rest ih =>
      obtain ⟨name, group⟩ := pair
      cases bare : group.isBare <;> simp [pruneGroups, bare, ih]

theorem isBare_iff_entries_eq_nil (tree : Tree) : tree.isBare ↔ tree.entries = [] := by
  induction tree with
  | node values groups ih =>
      simp only [isBare, Bool.and_eq_true, List.isEmpty_iff, allBare_iff, entries_node,
        List.append_eq_nil_iff, List.flatMap_eq_nil_iff, List.map_eq_nil_iff, Prod.forall]
      refine and_congr_right fun _ => ?_
      refine ⟨fun all => ?_, fun all => ?_⟩
      · intro name group member
        exact (ih name group member).mp (all name group member)
      · intro name group member
        exact (ih name group member).mpr (all name group member)

/-! ## Runs of insertions -/

/-- Insert pairs one after the other. -/
def insertAll (pairs : List (Text × Text)) (tree : Tree) : Tree :=
  pairs.foldl (fun tree pair => tree.insert pair.1 pair.2) tree

@[simp]
theorem insertAll_nil (tree : Tree) : insertAll [] tree = tree := rfl

@[simp]
theorem insertAll_cons (pair : Text × Text) (pairs : List (Text × Text)) (tree : Tree) :
    insertAll (pair :: pairs) tree = insertAll pairs (tree.insert pair.1 pair.2) := rfl

theorem insertAll_append (first second : List (Text × Text)) (tree : Tree) :
    insertAll (first ++ second) tree = insertAll second (insertAll first tree) :=
  List.foldl_append

/-- New single names are appended to the values of the root. -/
theorem insertAll_values {before values : List (Text × Text)} {groups : List (Text × Tree)}
    (names : PlainNames (before ++ values)) :
    insertAll values (node before groups) = node (before ++ values) groups := by
  induction values generalizing before with
  | nil => simp
  | cons pair rest ih =>
      obtain ⟨name, value⟩ := pair
      have plain : '-' ∉ name := names.plain name (by simp [Assoc.names])
      have put : Assoc.put name value before = before ++ [(name, value)] :=
        Assoc.alter_of_not_mem names.not_mem_before _
      rw [insertAll_cons, insert_of_plain plain]
      simp only [Tree.values, Tree.groups, put]
      rw [ih (by simpa using names)]
      simp

theorem changeGroup_changeGroup (name : Text) (first second : Tree → Tree) (tree : Tree) :
    (tree.changeGroup name first).changeGroup name second =
      tree.changeGroup name (second ∘ first) := by
  simp only [changeGroup, values, groups, Assoc.alter_alter]
  rfl

theorem insertAll_qualify_changeGroup {name : Text} (plain : '-' ∉ name)
    (pairs : List (Text × Text)) (change : Tree → Tree) (tree : Tree) :
    insertAll (pairs.map (qualify name)) (tree.changeGroup name change) =
      tree.changeGroup name (insertAll pairs ∘ change) := by
  induction pairs generalizing change with
  | nil => rfl
  | cons pair rest ih =>
      rw [List.map_cons, insertAll_cons, qualify, insert_qualified plain, changeGroup_changeGroup,
        ih]
      rfl

/-- Qualified pairs are inserted by inserting them in their group. -/
theorem insertAll_qualify {name : Text} (plain : '-' ∉ name) {pairs : List (Text × Text)}
    (some : pairs ≠ []) (tree : Tree) :
    insertAll (pairs.map (qualify name)) tree = tree.changeGroup name (insertAll pairs) := by
  cases pairs with
  | nil => exact absurd rfl some
  | cons pair rest =>
      rw [List.map_cons, insertAll_cons, qualify, insert_qualified plain,
        insertAll_qualify_changeGroup plain]
      rfl

/-- The entries of new groups append these groups, pruned, behind the groups that are there. A bare
group leaves no entry, and any other is new when its first entry comes, and stands last. -/
theorem insertAll_groupEntries {values : List (Text × Text)} {before groups : List (Text × Tree)}
    (names : PlainNames (before ++ groups))
    (rebuilt : ∀ name group, (name, group) ∈ groups →
      insertAll group.entries empty = group.prune) :
    insertAll (groupEntries groups) (node values before) =
      node values (before ++ pruneGroups groups) := by
  induction groups generalizing before with
  | nil => simp [groupEntries, pruneGroups]
  | cons pair rest ih =>
      obtain ⟨name, group⟩ := pair
      have plain : '-' ∉ name := names.plain name (by simp [Assoc.names])
      have restRebuilt := fun other tree later =>
        rebuilt other tree (List.mem_cons_of_mem (name, group) later)
      have step : groupEntries ((name, group) :: rest) =
          group.entries.map (qualify name) ++ groupEntries rest := by
        rw [groupEntries]
        rfl
      rw [step, insertAll_append, pruneGroups]
      by_cases bare : group.isBare
      · have restNames : PlainNames (before ++ rest) :=
          names.of_sublist (by simp [Assoc.names])
        rw [(isBare_iff_entries_eq_nil group).mp bare, if_pos bare]
        exact ih restNames restRebuilt
      · have some : group.entries ≠ [] := mt (isBare_iff_entries_eq_nil group).mpr bare
        have restNames : PlainNames (before ++ [(name, group.prune)] ++ rest) :=
          names.of_sublist (by simp [Assoc.names])
        rw [insertAll_qualify plain some, changeGroup, if_neg bare]
        simp only [Tree.values, Tree.groups, Assoc.alter_of_not_mem names.not_mem_before,
          Option.getD_none, rebuilt name group List.mem_cons_self]
        rw [ih restNames restRebuilt]
        simp

/-- Inserting the entries of a well-named tree into an empty one gives the tree back, pruned. -/
theorem WellNamed.ofEntries_entries_eq_prune {tree : Tree} (named : WellNamed tree) :
    ofEntries tree.entries = tree.prune := by
  induction named with
  | @node values groups plainValues plainGroups _ ih =>
      calc
        ofEntries (Tree.node values groups).entries
          = insertAll (groupEntries groups) (insertAll values (Tree.node [] [])) := by
            rw [entries, ← insertAll_append]
            rfl
        _ = insertAll (groupEntries groups) (Tree.node values []) := by
            rw [insertAll_values (by simpa using plainValues)]
            rfl
        _ = (Tree.node values groups).prune := by
            rw [insertAll_groupEntries (by simpa using plainGroups) ih, prune]
            rfl

/-! ## Trees without bare groups -/

theorem hasBareGroup_iff {values : List (Text × Text)} {groups : List (Text × Tree)} :
    HasBareGroup (node values groups) ↔
      ∃ name group, (name, group) ∈ groups ∧ (group.isBare ∨ HasBareGroup group) := by
  refine ⟨fun has => ?_, fun ⟨name, group, member, bad⟩ => ?_⟩
  · cases has with
    | here member bare => exact ⟨_, _, member, Or.inl bare⟩
    | deeper member inside => exact ⟨_, _, member, Or.inr inside⟩
  · cases bad with
    | inl bare => exact .here member bare
    | inr inside => exact .deeper member inside

theorem prune_eq_self {tree : Tree} (full : ¬ HasBareGroup tree) : tree.prune = tree := by
  induction tree with
  | node values groups ih =>
      have kept : groups.filter (fun pair => !pair.2.isBare) = groups := by
        refine List.filter_eq_self.mpr fun pair member => ?_
        have notBare : pair.2.isBare ≠ true := fun bare => full (.here member bare)
        simpa using notBare
      have unchanged : groups.map (fun pair => (pair.1, pair.2.prune)) = groups.map id := by
        refine List.map_congr_left fun pair member => ?_
        rw [ih pair.1 pair.2 member fun inside => full (.deeper member inside)]
        rfl
      rw [prune, pruneGroups_eq, kept, unchanged, List.map_id]

/-- A tree that is the same as its pruned form, order aside, has no bare group: with as many groups
on both sides, pruning dropped none at any level. -/
theorem WellNamed.not_hasBareGroup_of_same {tree : Tree} (named : WellNamed tree)
    (alike : same tree.prune tree) : ¬ HasBareGroup tree := by
  induction named with
  | @node values groups plainValues plainGroups _ ih =>
      simp only [prune, same, pruneGroups_eq, Bool.and_eq_true, beq_iff_eq, List.length_map,
        Tree.groups] at alike
      obtain ⟨⟨-, lengths⟩, groupsAlike⟩ := alike
      have kept := List.length_filter_eq_length_iff.mp lengths
      rw [sameGroups_iff] at groupsAlike
      rw [hasBareGroup_iff]
      intro hasBare
      obtain ⟨name, group, member, bare | inside⟩ := hasBare
      · have notBare := kept (name, group) member
        simp [bare] at notBare
      · have prunedMember : (name, group.prune) ∈ (groups.filter fun pair => !pair.2.isBare).map
            fun pair => (pair.1, pair.2.prune) :=
          List.mem_map.mpr ⟨(name, group), List.mem_filter.mpr ⟨member, kept _ member⟩, rfl⟩
        obtain ⟨other, found, like⟩ := groupsAlike name group.prune prunedMember
        have here := (Assoc.lookup_eq_some_iff_mem plainGroups.distinct name group).mpr member
        obtain rfl : other = group := Option.some.inj (found.symm.trans here)
        exact ih name other member like inside

/-- A rebuilt tree is the old one up to order when no group of the old one is bare. -/
theorem WellNamed.same_prune_iff {tree : Tree} (named : WellNamed tree) :
    same tree.prune tree ↔ ¬ HasBareGroup tree := by
  refine ⟨named.not_hasBareGroup_of_same, fun full => ?_⟩
  rw [prune_eq_self full]
  exact named.same_refl

theorem lookup_of_isBare {tree : Tree} (bare : tree.isBare) (key : Text) :
    tree.lookup key = none := by
  induction key using key_induction generalizing tree with
  | single name plain =>
      cases tree with
      | node values groups =>
          simp only [isBare, Bool.and_eq_true, List.isEmpty_iff] at bare
          rw [lookup_of_plain plain, Tree.values, bare.1]
          rfl
  | qualified name rest plain ih =>
      cases tree with
      | node values groups =>
          simp only [isBare, Bool.and_eq_true, allBare_iff] at bare
          rw [lookup_qualified plain, Option.bind_eq_none_iff]
          intro group found
          exact ih (bare.2 name group (Assoc.mem_of_lookup found))

theorem not_isBare_insert (key value : Text) (tree : Tree) : ¬ (tree.insert key value).isBare := by
  intro bare
  have found := lookup_of_isBare bare key
  rw [lookup_insert, if_pos rfl] at found
  exact Option.some_ne_none value found

theorem not_hasBareGroup_empty : ¬ HasBareGroup empty := by
  rw [empty, hasBareGroup_iff]
  simp

/-- Insertion makes no bare group: every group that it makes or changes on its way holds the new
value, so that a bare group could only be inside it. -/
theorem not_hasBareGroup_insert {tree : Tree} (full : ¬ HasBareGroup tree) (key value : Text) :
    ¬ HasBareGroup (tree.insert key value) := by
  induction key using key_induction generalizing tree with
  | single name plain =>
      cases tree with
      | node values groups =>
          rw [insert_of_plain plain, hasBareGroup_iff]
          exact mt hasBareGroup_iff.mpr full
  | qualified name rest plain ih =>
      cases tree with
      | node values groups =>
          rw [insert_qualified plain, changeGroup, hasBareGroup_iff]
          simp only [Tree.groups]
          intro hasBare
          obtain ⟨other, group, member, bad⟩ := hasBare
          rcases Assoc.mem_alter member with old | new
          · exact full (hasBareGroup_iff.mpr ⟨other, group, old, bad⟩)
          · obtain ⟨-, rfl⟩ := Prod.mk.inj new
            rcases bad with bare | inside
            · exact not_isBare_insert rest value _ bare
            · refine ih ?_ inside
              cases found : groups.lookup name with
              | none => exact not_hasBareGroup_empty
              | some group =>
                  exact fun inside => full (.deeper (Assoc.mem_of_lookup found) inside)

/-- A tree that only insertions built has no bare group. -/
theorem Inserted.not_hasBareGroup {tree : Tree} (built : Inserted tree) : ¬ HasBareGroup tree := by
  induction built with
  | empty => exact not_hasBareGroup_empty
  | parsed success =>
      exact parsed_induction (motive := fun tree => ¬ HasBareGroup tree) not_hasBareGroup_empty
        (fun _ full => not_hasBareGroup_insert full) success
  | insert key value _ ih => exact not_hasBareGroup_insert ih key value

/-- **Rebuilding.** Inserting the entries of a reachable tree into an empty tree gives that tree
without the groups that have no value anywhere below them, with every order kept. Up to order it
is the old tree exactly when there was no such group, and it is the old tree itself when only
insertions built that one. -/
theorem ofEntries_entries {tree : Tree} (reached : Reachable tree) :
    ofEntries tree.entries = tree.prune ∧
      (same (ofEntries tree.entries) tree ↔ ¬ HasBareGroup tree) ∧
      (Inserted tree → ofEntries tree.entries = tree) := by
  have rebuilt := reached.wellNamed.ofEntries_entries_eq_prune
  refine ⟨rebuilt, ?_, fun built => ?_⟩
  · rw [rebuilt]
    exact reached.wellNamed.same_prune_iff
  · rw [rebuilt]
    exact prune_eq_self built.not_hasBareGroup

/-- A group that stays empty beside one with a value is lost; interleaved groups come back. -/
theorem ofEntries_entries_of_edits :
    let edited := Edit.apply (.insert [['a']] ['c', '-', 'd'] ['v'])
      (Edit.apply (.ensureGroup [['a']] ['b']) Tree.empty)
    let inserted := ((Tree.empty.insert ['a', '-', 'b'] ['u']).insert ['c'] ['v']).insert
      ['a', '-', '-'] ['w']
    Reachable edited ∧ ofEntries edited.entries = edited.prune ∧
      (same (ofEntries edited.entries) edited ↔ ¬ HasBareGroup edited) ∧
      same (ofEntries edited.entries) edited = false ∧
      Inserted inserted ∧ ofEntries inserted.entries = inserted := by
  intro edited inserted
  have reached : Reachable edited := .edited _ (.edited _ .empty)
  have built : Inserted inserted := .insert _ _ (.insert _ _ (.insert _ _ .empty))
  have rebuilt := ofEntries_entries reached
  exact ⟨reached, rebuilt.1, rebuilt.2.1, by decide, built,
    (ofEntries_entries built.reachable).2.2 built⟩

end DocTags.Tree
