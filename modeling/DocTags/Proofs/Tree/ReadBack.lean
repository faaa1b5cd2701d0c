/-
# Entries that are read back

In a tree with any names, hyphens included, what a lookup finds is an entry, but an entry need not
be found: a key is cut at its hyphens, and a name that has one is cut as well. Where the names of
every node are distinct, all entries are found under distinct keys exactly if no name on the way to
a value has a hyphen. Names of groups without any value below them do not count, since no entry goes
through them.
-/

import DocTags.Proofs.Tree.Names
import DocTags.Proofs.Tree.Rebuild
import DocTags.Proofs.Tree.RoundTrip
import Mathlib.Data.List.Lattice
import Mathlib.Data.List.Nodup
import Mathlib.Data.List.Pairwise

namespace DocTags.Tree

/-- A name without a hyphen. -/
def IsPlain (name : Text) : Prop :=
  '-' ∉ name

instance (name : Text) : Decidable (IsPlain name) :=
  inferInstanceAs (Decidable ('-' ∉ name))

/-- The entries have distinct keys, and under every key its value is found. -/
structure ReadsBack (tree : Tree) : Prop where
  distinct : (Assoc.names tree.entries).Nodup
  found : ∀ key value, (key, value) ∈ tree.entries → tree.lookup key = some value

/-- Distinct names without hyphens are what makes a tree well named. -/
theorem DistinctNames.wellNamed {tree : Tree} (distinct : tree.DistinctNames)
    (plain : tree.NamesAll IsPlain) : tree.WellNamed := by
  induction distinct with
  | @node values groups distinctValues distinctGroups below ih =>
      obtain ⟨ofValues, ofGroups, plainBelow⟩ := plain
      exact .node ⟨ofValues, distinctValues⟩ ⟨ofGroups, distinctGroups⟩ fun name group member =>
        ih name group member (plainBelow name group member)

/-- A well-named tree reads back. -/
theorem WellNamed.readsBack {tree : Tree} (named : tree.WellNamed) : tree.ReadsBack where
  distinct := named.nodup_names_entries
  found key value := (named.mem_entries_iff key value).mp

/-- What is found is an entry, in every tree. -/
theorem mem_entries_of_lookup {key value : Text} {tree : Tree}
    (found : tree.lookup key = some value) : (key, value) ∈ tree.entries := by
  induction key using key_induction generalizing tree with
  | single name plain =>
      obtain ⟨values, groups⟩ := tree
      rw [lookup_of_plain plain] at found
      rw [entries_node, List.mem_append]
      exact Or.inl (Assoc.mem_of_lookup found)
  | qualified name rest plain ih =>
      obtain ⟨values, groups⟩ := tree
      rw [lookup_qualified plain, Option.bind_eq_some_iff] at found
      obtain ⟨group, inGroups, found⟩ := found
      rw [entries_node, List.mem_append, mem_groupEntries]
      exact Or.inr ⟨name, group, rest, Assoc.mem_of_lookup inGroups, ih found, rfl⟩

/-! ## Without bare groups -/

/-- Bare groups have no entries. -/
theorem entries_prune (tree : Tree) : tree.prune.entries = tree.entries := by
  induction tree with
  | node values groups ih =>
      rw [prune, entries_node, entries_node, pruneGroups_eq, List.flatMap_map]
      congr 1
      induction groups with
      | nil => rfl
      | cons pair rest ihRest =>
          have later := ihRest fun name group member => ih name group (List.mem_cons_of_mem _ member)
          cases bare : pair.2.isBare with
          | true =>
              have nothing := (isBare_iff_entries_eq_nil pair.2).mp bare
              simp [bare, nothing, later]
          | false =>
              have same := ih pair.1 pair.2 List.mem_cons_self
              simp [bare, same, later]

/-- Of the groups under distinct names just the bare ones are gone. -/
theorem lookup_pruneGroups {groups : List (Text × Tree)} (distinct : (Assoc.names groups).Nodup)
    (name : Text) :
    (pruneGroups groups).lookup name =
      ((groups.lookup name).filter fun group => !group.isBare).map prune := by
  induction groups with
  | nil => rfl
  | cons pair rest ih =>
      obtain ⟨first, group⟩ := pair
      obtain ⟨fresh, restDistinct⟩ := List.nodup_cons.mp distinct
      rw [pruneGroups, Assoc.lookup_cons_eq_ite]
      by_cases same : name = first
      · subst same
        rw [if_pos rfl]
        cases bare : group.isBare with
        | true =>
            rw [if_pos rfl, ih restDistinct, Assoc.lookup_eq_none_of_not_mem fresh]
            simp [Option.filter_some, bare]
        | false => simp [Option.filter_some, bare]
      · rw [if_neg same, ← ih restDistinct]
        cases bare : group.isBare <;> simp [Assoc.lookup_cons_eq_ite, same]

/-- Nothing is lost with bare groups. -/
theorem DistinctNames.lookup_prune {tree : Tree} (distinct : tree.DistinctNames) (key : Text) :
    tree.prune.lookup key = tree.lookup key := by
  induction key using key_induction generalizing tree with
  | single name plain =>
      obtain ⟨values, groups⟩ := tree
      rw [lookup_of_plain plain, lookup_of_plain plain, prune]
      rfl
  | qualified name rest plain ih =>
      obtain ⟨-, distinctGroups, below⟩ := distinct
      rw [lookup_qualified plain, lookup_qualified plain, prune]
      simp only [Tree.groups, lookup_pruneGroups distinctGroups]
      cases found : List.lookup name _ with
      | none => rfl
      | some group =>
          have inside := ih (below name group (Assoc.mem_of_lookup found))
          cases bare : group.isBare with
          | true => simp [Option.filter_some, bare, lookup_of_isBare bare rest]
          | false => simp [Option.filter_some, bare, inside]

/-- Distinct names stay distinct without bare groups. -/
theorem DistinctNames.prune {tree : Tree} (distinct : tree.DistinctNames) :
    tree.prune.DistinctNames := by
  induction distinct with
  | @node values groups distinctValues distinctGroups below ih =>
      rw [Tree.prune, pruneGroups_eq]
      refine .node distinctValues ?_ fun name group member => ?_
      · have fewer : (groups.filter fun pair => !pair.2.isBare).Sublist groups :=
          List.filter_sublist
        rw [Assoc.names, List.map_map]
        exact (fewer.map Prod.fst).nodup distinctGroups
      · obtain ⟨⟨first, old⟩, kept, same⟩ := List.mem_map.mp member
        obtain ⟨rfl, rfl⟩ := Prod.mk.inj same
        exact ih first old (List.mem_of_mem_filter kept)

/-! ## Names on the way to a value -/

/-- Lists that make up one without repetition share nothing. -/
theorem disjoint_of_nodup_flatMap {α β : Type} {list : List α} {f : α → List β}
    (distinct : (list.flatMap f).Nodup) {a b : α} (inFirst : a ∈ list) (inSecond : b ∈ list)
    (differs : a ≠ b) : (f a).Disjoint (f b) := by
  have symmetric : Std.Symm (Function.onFun List.Disjoint f) :=
    ⟨fun _ _ apart => List.Disjoint.symm apart⟩
  exact (List.nodup_flatMap.mp distinct).2.forall inFirst inSecond differs

section

variable {values : List (Text × Text)} {groups : List (Text × Tree)}

/-- An entry of a group is an entry behind the name of the group. -/
theorem qualified_mem_entries {name key value : Text} {group : Tree}
    (member : (name, group) ∈ groups) (inside : (key, value) ∈ group.entries) :
    (name ++ '-' :: key, value) ∈ (node values groups).entries := by
  rw [entries_node, List.mem_append, mem_groupEntries]
  exact Or.inr ⟨name, group, key, member, inside, rfl⟩

/-- The names of the values of the root are plain: a hyphenated one is found, if at all, in a group,
and then stands twice among the keys. -/
theorem ReadsBack.plain_value (back : (node values groups).ReadsBack) {name value : Text}
    (member : (name, value) ∈ values) : IsPlain name := by
  intro hyphen
  obtain ⟨first, rest, plain, rfl⟩ := exists_qualified hyphen
  have inTree : (first ++ '-' :: rest, value) ∈ (node values groups).entries := by
    rw [entries_node, List.mem_append]
    exact Or.inl member
  have found := back.found _ _ inTree
  rw [lookup_qualified plain, Option.bind_eq_some_iff] at found
  obtain ⟨group, inGroups, found⟩ := found
  have distinct := back.distinct
  rw [names_entries_node, List.nodup_append] at distinct
  refine distinct.2.2 (first ++ '-' :: rest) (List.mem_map_of_mem member) _ ?_ rfl
  have inGroup : rest ∈ Assoc.names group.entries :=
    List.mem_map_of_mem (f := Prod.fst) (mem_entries_of_lookup found)
  exact List.mem_flatMap.mpr
    ⟨(first, group), Assoc.mem_of_lookup inGroups, List.mem_map_of_mem inGroup⟩

/-- So are the names of the groups of the root that are not bare. -/
theorem ReadsBack.plain_group (back : (node values groups).ReadsBack) {name : Text} {group : Tree}
    (member : (name, group) ∈ groups) (full : ¬ group.isBare) : IsPlain name := by
  intro hyphen
  obtain ⟨first, rest, plain, rfl⟩ := exists_qualified hyphen
  obtain ⟨⟨key, value⟩, inGroup⟩ :=
    List.exists_mem_of_ne_nil _ (mt (isBare_iff_entries_eq_nil group).mpr full)
  have found := back.found _ _ (qualified_mem_entries member inGroup)
  rw [List.append_assoc, List.cons_append, lookup_qualified plain, Option.bind_eq_some_iff] at found
  obtain ⟨other, inGroups, found⟩ := found
  have distinct := back.distinct
  rw [names_entries_node, List.nodup_append] at distinct
  have differs : (first ++ '-' :: rest, group) ≠ (first, other) := by
    intro same
    exact plain ((Prod.mk.inj same).1 ▸ hyphen)
  have apart := disjoint_of_nodup_flatMap distinct.2.1 member (Assoc.mem_of_lookup inGroups) differs
  have inOther : rest ++ '-' :: key ∈ Assoc.names other.entries :=
    List.mem_map_of_mem (f := Prod.fst) (mem_entries_of_lookup found)
  refine apart (List.mem_map_of_mem (List.mem_map_of_mem (f := Prod.fst) inGroup)) ?_
  have whole := List.mem_map_of_mem (f := (first ++ '-' :: ·)) inOther
  simpa using whole

/-- And a group under a plain name reads back. -/
theorem ReadsBack.group (back : (node values groups).ReadsBack)
    (distinctGroups : (Assoc.names groups).Nodup) {name : Text} {group : Tree}
    (member : (name, group) ∈ groups) (plain : IsPlain name) : group.ReadsBack where
  distinct := by
    have distinct := back.distinct
    rw [names_entries_node, List.nodup_append, List.nodup_flatMap] at distinct
    exact (distinct.2.1.1 (name, group) member).of_map _
  found key value inGroup := by
    have here : groups.lookup name = some group :=
      (Assoc.lookup_eq_some_iff_mem distinctGroups name group).mpr member
    have found := back.found _ _ (qualified_mem_entries member inGroup)
    rwa [lookup_qualified plain, Tree.groups, here, Option.bind_some] at found

end

/-- In a tree that reads back, no name on the way to a value has a hyphen. -/
theorem ReadsBack.namesAll_prune {tree : Tree} (back : tree.ReadsBack)
    (distinct : tree.DistinctNames) : tree.prune.NamesAll IsPlain := by
  induction distinct with
  | @node values groups _ distinctGroups below ih =>
      have full : ∀ name group, (name, group) ∈ groups.filter (fun pair => !pair.2.isBare) →
          (name, group) ∈ groups ∧ IsPlain name := by
        intro name group kept
        obtain ⟨member, full⟩ := List.mem_filter.mp kept
        exact ⟨member, back.plain_group member (by simpa using full)⟩
      rw [prune, pruneGroups_eq]
      refine .node ?_ ?_ ?_
      · intro name member
        obtain ⟨⟨_, value⟩, inValues, rfl⟩ := List.mem_map.mp member
        exact back.plain_value inValues
      · intro name member
        rw [Assoc.names, List.map_map] at member
        obtain ⟨⟨_, group⟩, kept, rfl⟩ := List.mem_map.mp member
        exact (full _ group kept).2
      · intro name group member
        obtain ⟨⟨_, old⟩, kept, same⟩ := List.mem_map.mp member
        obtain ⟨rfl, rfl⟩ := Prod.mk.inj same
        obtain ⟨inGroups, plain⟩ := full _ old kept
        exact ih _ old inGroups (back.group distinctGroups inGroups plain)

/-- Where the names of every node are distinct, a tree reads back exactly if no name on the way to
a value has a hyphen. -/
theorem DistinctNames.readsBack_iff {tree : Tree} (distinct : tree.DistinctNames) :
    tree.ReadsBack ↔ tree.prune.NamesAll IsPlain := by
  refine ⟨fun back => back.namesAll_prune distinct, fun plain => ?_⟩
  have pruned := (distinct.prune.wellNamed plain).readsBack
  constructor
  · rw [← entries_prune]
    exact pruned.distinct
  · intro key value member
    rw [← entries_prune] at member
    rw [← distinct.lookup_prune]
    exact pruned.found key value member

end DocTags.Tree
