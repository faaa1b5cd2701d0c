/-
# What an insertion changes

The entries of a tree are listed values first and then group by group, so that a new value may come
to stand anywhere among them. It comes to stand at one place, though: in the listing before it and
behind it nothing changes. A key that has a value keeps its place, and the groups stay as they are;
a new key adds its pair, and the groups that are new stand behind those that were there.

This follows the key from behind a hyphen to before it. A change under one name of an association is
a change at one place, and the entries of the group of that name stand together.
-/

import DocTags.Proofs.Tree.Entries
import DocTags.Proofs.Tree.Levels

namespace DocTags

/-- What stands under a name is replaced at its place, or added at one place if there is none. -/
theorem Assoc.exists_alter {α β : Type} [DecidableEq α] [BEq α] [LawfulBEq α] (name : α)
    (change : Option β → β) (pairs : List (α × β)) :
    ∃ before after, pairs = before ++ (pairs.lookup name).toList.map (name, ·) ++ after ∧
      alter name change pairs = before ++ (name, change (pairs.lookup name)) :: after := by
  induction pairs with
  | nil => exact ⟨[], [], rfl, rfl⟩
  | cons pair rest ih =>
      obtain ⟨key, value⟩ := pair
      by_cases found : key = name
      · subst found
        exact ⟨[], rest, by simp, by simp [alter]⟩
      · have differs : name ≠ key := Ne.symm found
        obtain ⟨before, after, old, new⟩ := ih
        refine ⟨(key, value) :: before, after, ?_, ?_⟩
        · rw [lookup_cons_eq_ite, if_neg differs, List.cons_append, List.cons_append, ← old]
        · rw [alter, if_neg found, new, lookup_cons_eq_ite, if_neg differs, List.cons_append]

namespace Tree

variable {key value name : Text} {path rest : List Text} {tree : Tree}

/-! ## Entries -/

/-- The pair of a key, if it has a value. -/
def entryOf (key : Text) (tree : Tree) : List (Text × Text) :=
  (tree.lookup key).toList.map (key, ·)

/-- The entries of a group as the entries of the tree that it stands in. -/
theorem entries_of_group (name : Text) (groups : List (Text × Tree)) :
    ((groups.lookup name).toList.map (name, ·)).flatMap
        (fun pair => pair.2.entries.map (qualify pair.1)) =
      ((groups.lookup name).getD empty).entries.map (qualify name) := by
  cases groups.lookup name with
  | none => rfl
  | some group => simp

/-- The pair of a key is that of a shorter key in its group. -/
theorem entryOf_qualified (plain : '-' ∉ name) (key : Text) (tree : Tree) :
    tree.entryOf (name ++ '-' :: key) =
      (((tree.groups.lookup name).getD empty).entryOf key).map (qualify name) := by
  rw [entryOf, lookup_qualified plain]
  cases tree.groups.lookup name with
  | none => simp [entryOf, lookup_empty]
  | some group => simp [entryOf, qualify, Function.comp_def]

/-- An insertion replaces the pair of its key at its place, or adds it at one place. With a
qualified key only the entries of the group of that name change, and among them only one. -/
theorem exists_entries_insert (key value : Text) (tree : Tree) :
    ∃ before after, tree.entries = before ++ tree.entryOf key ++ after ∧
      (tree.insert key value).entries = before ++ (key, value) :: after := by
  induction key using key_induction generalizing tree with
  | single name plain =>
      obtain ⟨values, groups⟩ := tree
      obtain ⟨before, after, old, new⟩ := Assoc.exists_alter name (fun _ => value) values
      refine ⟨before, after ++ groupEntries groups, ?_, ?_⟩
      · rw [entryOf, lookup_of_plain plain, entries, Tree.values, ← List.append_assoc, ← old]
      · rw [insert_of_plain plain, entries, Tree.values, Tree.groups, Assoc.put, new]
        simp
  | qualified name rest plain ih =>
      obtain ⟨values, groups⟩ := tree
      obtain ⟨before, after, old, new⟩ := Assoc.exists_alter name
        (fun group => insert rest value (group.getD empty)) groups
      obtain ⟨inner, outer, oldInside, newInside⟩ := ih ((groups.lookup name).getD empty)
      let listed := fun pair : Text × Tree => pair.2.entries.map (qualify pair.1)
      have cut : groups.flatMap listed = before.flatMap listed ++
          ((groups.lookup name).getD empty).entries.map (qualify name) ++ after.flatMap listed := by
        rw [← entries_of_group, ← List.flatMap_append, ← List.flatMap_append, ← old]
      refine ⟨values ++ before.flatMap listed ++ inner.map (qualify name),
        outer.map (qualify name) ++ after.flatMap listed, ?_, ?_⟩
      · rw [entryOf_qualified plain, entries_node, cut, oldInside]
        simp [Tree.groups]
      · rw [insert_qualified plain, changeGroup, entries_node]
        simp only [Tree.values, Tree.groups]
        rw [new, List.flatMap_append, List.flatMap_cons, newInside]
        simp [listed, qualify]

/-! ## Groups -/

/-- The names of the groups of the node at a path, in order. -/
def groupNames? (path : List Text) (tree : Tree) : Option (List Text) :=
  (tree.nodeAt? path).map fun last => Assoc.names last.groups

/-- The groups of a node keep their order when a value is set below it. -/
theorem exists_names_insertAt (value name : Text) (rest : List Text) (tree : Tree) :
    ∃ more, Assoc.names (insertAt value (name :: rest) tree).groups =
      Assoc.names tree.groups ++ more := by
  cases rest with
  | nil =>
      obtain ⟨values, groups⟩ := tree
      exact ⟨[], (List.append_nil _).symm⟩
  | cons next rest =>
      rw [insertAt_cons (List.cons_ne_nil next rest), changeGroup, groups, Assoc.names_alter]
      by_cases known : name ∈ Assoc.names tree.groups
      · exact ⟨[], by rw [if_pos known, List.append_nil]⟩
      · exact ⟨[name], by rw [if_neg known]⟩

/-- They stay as they are where a value was found before. -/
theorem names_insertAt_of_found {old : Text} (value : Text)
    (found : lookupAt (name :: rest) tree = some old) :
    Assoc.names (insertAt value (name :: rest) tree).groups = Assoc.names tree.groups := by
  cases rest with
  | nil =>
      obtain ⟨values, groups⟩ := tree
      rfl
  | cons next rest =>
      rw [lookupAt, Option.bind_eq_some_iff] at found
      obtain ⟨group, here, -⟩ := found
      have known : name ∈ Assoc.names tree.groups :=
        List.mem_map_of_mem (f := Prod.fst) (Assoc.mem_of_lookup here)
      rw [insertAt_cons (List.cons_ne_nil next rest), changeGroup, groups, Assoc.names_alter,
        if_pos known]

/-- The groups that were there stay where they were, with new ones behind them. -/
theorem exists_groupNames?_insert {names : List Text}
    (here : tree.groupNames? path = some names) (key value : Text) :
    ∃ more, (tree.insert key value).groupNames? path = some (names ++ more) := by
  obtain ⟨last, found, rfl⟩ := Option.map_eq_some_iff.mp here
  rw [groupNames?, insert]
  by_cases below : ∃ name rest, components key = path ++ name :: rest
  · obtain ⟨name, rest, cut⟩ := below
    obtain ⟨more, kept⟩ := exists_names_insertAt value name rest last
    rw [nodeAt?_insertAt_of_below cut, found, Option.getD_some, Option.map_some, kept]
    exact ⟨more, rfl⟩
  · rw [nodeAt?_insertAt_of_apart fun name rest cut => below ⟨name, rest, cut⟩, found]
    exact ⟨[], by simp⟩

/-- No group is made where the key had a value. -/
theorem groupNames?_insert_of_found {old : Text} (found : tree.lookup key = some old)
    (path : List Text) (value : Text) :
    (tree.insert key value).groupNames? path = tree.groupNames? path := by
  rw [groupNames?, insert, groupNames?]
  by_cases below : ∃ name rest, components key = path ++ name :: rest
  · obtain ⟨name, rest, cut⟩ := below
    rw [lookup, cut, lookupAt_append (List.cons_ne_nil name rest), Option.bind_eq_some_iff] at found
    obtain ⟨last, here, found⟩ := found
    rw [nodeAt?_insertAt_of_below cut, here, Option.getD_some, Option.map_some, Option.map_some,
      names_insertAt_of_found value found]
  · rw [nodeAt?_insertAt_of_apart fun name rest cut => below ⟨name, rest, cut⟩]

/-! ## Both together -/

/-- **One place.** Inserting a key that has a value replaces the value at its place in the entries,
and leaves the groups of every node as they are. Inserting any other key adds its pair at one place
of the entries, and every group that was there keeps its place among those of its node. -/
theorem entries_insert_at_one_place (key value : Text) (tree : Tree) :
    (∀ old, tree.lookup key = some old →
      (∃ before after, tree.entries = before ++ (key, old) :: after ∧
        (tree.insert key value).entries = before ++ (key, value) :: after) ∧
      ∀ path, (tree.insert key value).groupNames? path = tree.groupNames? path) ∧
    (tree.lookup key = none →
      (∃ before after, tree.entries = before ++ after ∧
        (tree.insert key value).entries = before ++ (key, value) :: after) ∧
      ∀ path names, tree.groupNames? path = some names →
        ∃ more, (tree.insert key value).groupNames? path = some (names ++ more)) := by
  obtain ⟨before, after, listed, changed⟩ := exists_entries_insert key value tree
  constructor
  · intro old found
    rw [entryOf, found] at listed
    refine ⟨⟨before, after, ?_, changed⟩, fun path => groupNames?_insert_of_found found path value⟩
    simpa using listed
  · intro missing
    rw [entryOf, missing] at listed
    refine ⟨⟨before, after, ?_, changed⟩, fun path names here => ?_⟩
    · simpa using listed
    · exact exists_groupNames?_insert here key value

/-- A value in a group that had none comes to stand between others, and one that is there is set
again. -/
theorem entries_insert_at_one_place_of_edits :
    let tree := Edit.apply (.insert [] "z-y".toList ['2']) (Edit.apply (.ensureGroup [['g']] ['h'])
      (Edit.apply (.insert [] "g-x".toList ['1']) Tree.empty))
    Reachable tree ∧ tree.entries = [("g-x".toList, ['1']), ("z-y".toList, ['2'])] ∧
      (tree.lookup "g-h-k".toList = none ∧
        (∃ before after, tree.entries = before ++ after ∧
          (tree.insert "g-h-k".toList ['3']).entries =
            before ++ ("g-h-k".toList, ['3']) :: after) ∧
        tree.groupNames? [['g']] = some [['h']] ∧
        ∃ more, (tree.insert "g-h-k".toList ['3']).groupNames? [['g']] = some ([['h']] ++ more)) ∧
      tree.lookup "g-x".toList = some ['1'] ∧
      (∃ before after, tree.entries = before ++ ("g-x".toList, ['1']) :: after ∧
        (tree.insert "g-x".toList ['3']).entries = before ++ ("g-x".toList, ['3']) :: after) ∧
      (tree.insert "g-x".toList ['3']).groupNames? [] = tree.groupNames? [] := by
  intro tree
  have reached : Reachable tree := .edited _ (.edited _ (.edited _ .empty))
  have fresh : tree.lookup "g-h-k".toList = none := by decide
  have known : tree.lookup "g-x".toList = some ['1'] := by decide
  have here : tree.groupNames? [['g']] = some [['h']] := by decide
  have added := (entries_insert_at_one_place "g-h-k".toList ['3'] tree).2 fresh
  have replaced := (entries_insert_at_one_place "g-x".toList ['3'] tree).1 ['1'] known
  exact ⟨reached, by decide, ⟨fresh, added.1, here, added.2 [['g']] [['h']] here⟩, known,
    replaced.1, replaced.2 []⟩

end Tree

end DocTags
