/-
# Entries and lookup

In a well-named tree the entries are the graph of the lookup: every key stands at most once among
them, and it stands there with just the value that looking it up finds. A key without a hyphen can
only be a value of the root, and one with a hyphen only an entry of the group before its first
hyphen, so that both sides go down together.
-/

import DocTags.Proofs.Tree.Reachable
import DocTags.Tree.Entries

namespace DocTags.Tree

/-- An entry of a group as an entry of the tree that the group stands in. -/
def qualify (name : Text) (entry : Text × Text) : Text × Text :=
  (name ++ '-' :: entry.1, entry.2)

/-- The entries below some groups are those of each group, one group after the other. -/
theorem groupEntries_eq_flatMap (groups : List (Text × Tree)) :
    groupEntries groups = groups.flatMap fun pair => pair.2.entries.map (qualify pair.1) := by
  induction groups with
  | nil => simp [groupEntries]
  | cons pair rest ih =>
      obtain ⟨name, group⟩ := pair
      rw [groupEntries, ih, List.flatMap_cons]
      rfl

/-- The values of the root come first, and then the entries of its groups. -/
theorem entries_node (values : List (Text × Text)) (groups : List (Text × Tree)) :
    (node values groups).entries =
      values ++ groups.flatMap fun pair => pair.2.entries.map (qualify pair.1) := by
  rw [entries, groupEntries_eq_flatMap]

/-- An entry below some groups is an entry of one of them, qualified by its name. -/
theorem mem_groupEntries {groups : List (Text × Tree)} {key value : Text} :
    (key, value) ∈ (groups.flatMap fun pair => pair.2.entries.map (qualify pair.1)) ↔
      ∃ name group rest, (name, group) ∈ groups ∧ (rest, value) ∈ group.entries ∧
        key = name ++ '-' :: rest := by
  simp only [List.mem_flatMap, List.mem_map, qualify, Prod.exists, Prod.mk.injEq]
  refine ⟨fun inside => ?_, fun inside => ?_⟩
  · obtain ⟨name, group, inGroups, rest, _, inEntries, rfl, rfl⟩ := inside
    exact ⟨name, group, rest, inGroups, inEntries, rfl⟩
  · obtain ⟨name, group, rest, inGroups, inEntries, rfl⟩ := inside
    exact ⟨name, group, inGroups, rest, value, inEntries, rfl, rfl⟩

/-- A pair is an entry of a well-named tree when looking up its key finds its value. A hyphen
decides whether the key can be that of a value of the root or of an entry of a group. -/
theorem WellNamed.mem_entries_iff {tree : Tree} (named : WellNamed tree) (key value : Text) :
    (key, value) ∈ tree.entries ↔ tree.lookup key = some value := by
  induction named generalizing key with
  | @node values groups plainValues plainGroups below ih =>
      rw [entries_node, List.mem_append, mem_groupEntries]
      by_cases hyphen : '-' ∈ key
      · obtain ⟨name, rest, plain, rfl⟩ := exists_qualified hyphen
        have noValue : (name ++ '-' :: rest, value) ∉ values := fun member =>
          plainValues.plain _ (List.mem_map_of_mem member) hyphen
        rw [lookup_qualified plain, Option.bind_eq_some_iff]
        simp only [noValue, false_or, Assoc.lookup_eq_some_iff_mem plainGroups.distinct,
          Tree.groups]
        refine ⟨fun inside => ?_, fun inside => ?_⟩
        · obtain ⟨other, group, later, inGroups, inEntries, same⟩ := inside
          have otherPlain := plainGroups.plain other (List.mem_map_of_mem inGroups)
          obtain ⟨rfl, rfl⟩ := (qualified_inj plain otherPlain).mp same
          exact ⟨group, inGroups, (ih name group inGroups rest).mp inEntries⟩
        · obtain ⟨group, inGroups, found⟩ := inside
          exact ⟨name, group, rest, inGroups, (ih name group inGroups rest).mpr found, rfl⟩
      · rw [lookup_of_plain hyphen]
        refine ⟨fun inside => ?_, fun found => Or.inl (Assoc.mem_of_lookup found)⟩
        · rcases inside with inValues | ⟨name, group, rest, -, -, rfl⟩
          · exact (Assoc.lookup_eq_some_iff_mem plainValues.distinct key value).mpr inValues
          · exact absurd (by simp) hyphen

/-- The keys of a tree are the names of its values and the qualified keys of its groups. -/
theorem names_entries_node (values : List (Text × Text)) (groups : List (Text × Tree)) :
    Assoc.names (node values groups).entries =
      Assoc.names values ++
        groups.flatMap fun pair => (Assoc.names pair.2.entries).map (pair.1 ++ '-' :: ·) := by
  simp [entries_node, Assoc.names, qualify, List.map_flatMap, Function.comp_def]

/-- The keys of the entries of a well-named tree are distinct. -/
theorem WellNamed.nodup_names_entries {tree : Tree} (named : WellNamed tree) :
    (Assoc.names tree.entries).Nodup := by
  induction named with
  | @node values groups plainValues plainGroups below ih =>
      rw [names_entries_node, List.nodup_append]
      refine ⟨plainValues.distinct, List.pairwise_flatMap.mpr ⟨?_, ?_⟩, ?_⟩
      · intro pair member
        refine List.pairwise_map.mpr ((ih pair.1 pair.2 member).imp fun differs same => differs ?_)
        simpa using same
      · have apart : groups.Pairwise fun first second => first.1 ≠ second.1 :=
          List.pairwise_map.mp plainGroups.distinct
        refine apart.imp_of_mem fun {first second} inFirst inSecond differs => ?_
        intro key inGroup other inOther same
        obtain ⟨rest, -, rfl⟩ := List.mem_map.mp inGroup
        obtain ⟨later, -, rfl⟩ := List.mem_map.mp inOther
        have firstPlain := plainGroups.plain first.1 (List.mem_map_of_mem inFirst)
        have secondPlain := plainGroups.plain second.1 (List.mem_map_of_mem inSecond)
        exact differs ((qualified_inj firstPlain secondPlain).mp same).1
      · intro key inValues other inGroups same
        obtain ⟨pair, -, later⟩ := List.mem_flatMap.mp inGroups
        obtain ⟨rest, -, qualified⟩ := List.mem_map.mp later
        apply plainValues.plain key inValues
        rw [same, ← qualified]
        simp

/-- **Entries and lookup are one map.** In every reachable tree the keys of the entries are
distinct, and a pair is an entry exactly when looking up its key finds its value. -/
theorem entries_graph_of_lookup {tree : Tree} (reached : Reachable tree) :
    (Assoc.names tree.entries).Nodup ∧
      ∀ key value, (key, value) ∈ tree.entries ↔ tree.lookup key = some value :=
  ⟨reached.wellNamed.nodup_names_entries, reached.wellNamed.mem_entries_iff⟩

/-- One name for a value and for a group, empty components, and a refused name. -/
theorem entries_graph_of_lookup_of_edits :
    let tree := Edit.apply (.insert [['g']] ['-'] ['w'])
      (Edit.apply (.ensureGroup [['e'], ['a', '-']] ['x'])
        (Edit.apply (.insert [] ['g'] ['v']) Tree.empty))
    Reachable tree ∧ tree.entries = [(['g'], ['v']), (['g', '-', '-'], ['w'])] ∧
      (Assoc.names tree.entries).Nodup ∧
      ∀ key value, (key, value) ∈ tree.entries ↔ tree.lookup key = some value := by
  have reached : Reachable (Edit.apply (.insert [['g']] ['-'] ['w'])
      (Edit.apply (.ensureGroup [['e'], ['a', '-']] ['x'])
        (Edit.apply (.insert [] ['g'] ['v']) Tree.empty))) :=
    .edited _ (.edited _ (.edited _ .empty))
  exact ⟨reached, by decide, entries_graph_of_lookup reached⟩

end DocTags.Tree
