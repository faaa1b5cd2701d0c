/-
# Trees are read back from JSON

A tree that is written as JSON is read back just as it was, with the names of values and groups in
their order at every node, unless it is too deep: every level of the tree opens two objects inside
each other, and the objects of one more level stand inside the deepest group. Of the 127 that may be
opened, a tree of depth 62 takes 126. The text of a deeper tree is refused as malformed, in either
layout.
-/

import DocTags.Proofs.Json.Objects
import DocTags.Proofs.Tree.Lookup
import DocTags.Scan.Render

namespace DocTags.Tree

/-! ## Depth and distinct names -/

mutual

/-- How deep the groups of a tree stand inside each other. -/
def depth : Tree → Nat
  | node _ groups => groupsDepth groups

/-- How deep some groups and the groups in them stand inside each other. -/
def groupsDepth : List (Text × Tree) → Nat
  | [] => 0
  | (_, group) :: rest => max (depth group + 1) (groupsDepth rest)

end

/-- A tree is as deep as its deepest group and one level more. -/
theorem depth_node_le_iff (values : List (Text × Text)) (groups : List (Text × Tree))
    {bound : Nat} : (node values groups).depth ≤ bound ↔ ∀ pair ∈ groups, pair.2.depth + 1 ≤ bound := by
  rw [depth]
  induction groups with
  | nil => simp [groupsDepth]
  | cons pair groups ih =>
      obtain ⟨name, group⟩ := pair
      rw [groupsDepth, Nat.max_le, ih, List.forall_mem_cons]

/-- The names of the values of a node are distinct, and so are those of its groups, at every depth:
what stands under a name that comes again is replaced, in a tree as in the associations it is made
of. -/
inductive DistinctNames : Tree → Prop where
  | node {values : List (Text × Text)} {groups : List (Text × Tree)}
    (distinctValues : (Assoc.names values).Nodup) (distinctGroups : (Assoc.names groups).Nodup)
    (below : ∀ name group, (name, group) ∈ groups → DistinctNames group) :
    DistinctNames (.node values groups)

/-! ## Reading a node -/

open Json (Layout Reader)

theorem groupsToJson_eq_map (groups : List (Text × Tree)) :
    groupsToJson groups = groups.map fun pair => (pair.1, toJson pair.2) := by
  induction groups with
  | nil => rfl
  | cons pair groups ih =>
      obtain ⟨name, group⟩ := pair
      rw [groupsToJson, ih, List.map_cons]

variable {layout : Layout} {level : Nat}

section

variable {readGroups : Reader (List (Text × Tree))} {readValues : Reader (List (Text × Text))}

/-- The field of the groups is read as the groups, unless it was read before. -/
theorem fieldsFrom_groups (skips : readGroups.SkipsBlanks) (fuel : Nat) (first : Bool)
    (values : Option (List (Text × Text))) (rest : Text) (json : Json)
    (fields : List (Text × Json)) :
    fieldsFrom readGroups readValues (fuel + 1) first ⟨none, values⟩
        (layout.remaining first level rest ((groupsField, json) :: fields)) =
      (readGroups (layout.write level (layout.remaining false level rest fields) json)).bind
        fun (groups, rest) =>
          fieldsFrom readGroups readValues fuel false ⟨some groups, values⟩ rest := by
  rw [fieldsFrom, Json.nextName_remaining]
  simp only [bind, Except.bind, if_true, Json.stringRest_flatMap]
  rw [Json.colon_cons]
  simp only [skips _ _ layout.gap_blank, Option.isSome_none, Bool.false_eq_true, if_false]

/-- The field of the values is read as the values, unless it was read before. -/
theorem fieldsFrom_values (skips : readValues.SkipsBlanks) (fuel : Nat) (first : Bool)
    (groups : Option (List (Text × Tree))) (rest : Text) (json : Json)
    (fields : List (Text × Json)) :
    fieldsFrom readGroups readValues (fuel + 1) first ⟨groups, none⟩
        (layout.remaining first level rest ((valuesField, json) :: fields)) =
      (readValues (layout.write level (layout.remaining false level rest fields) json)).bind
        fun (values, rest) =>
          fieldsFrom readGroups readValues fuel false ⟨groups, some values⟩ rest := by
  have differs : valuesField ≠ groupsField := by decide
  rw [fieldsFrom, Json.nextName_remaining]
  simp only [bind, Except.bind, if_true, Json.stringRest_flatMap, if_neg differs]
  rw [Json.colon_cons]
  simp only [skips _ _ layout.gap_blank, Option.isSome_none, Bool.false_eq_true, if_false]

/-- Both fields of a node are read if they are sound. -/
theorem fieldsFrom_write {values : List (Text × Text)} {groups : List (Text × Tree)}
    {groupsJson valuesJson : Json} {soundGroups soundValues : Bool}
    (skipsGroups : readGroups.SkipsBlanks) (skipsValues : readValues.SkipsBlanks)
    (groupsRead : layout.ReadsIf soundGroups level readGroups groupsJson groups)
    (valuesRead : layout.ReadsIf soundValues level readValues valuesJson values)
    {blanks : Text} (blank : Json.Blank blanks) (rest : Text) {fuel : Nat} (enough : 3 ≤ fuel) :
    fieldsFrom readGroups readValues fuel true ⟨none, none⟩
        (layout.remaining true level (blanks ++ '\x7d' :: rest)
          [(groupsField, groupsJson), (valuesField, valuesJson)]) =
      if soundGroups && soundValues then .ok (⟨some groups, some values⟩, rest)
      else .error .malformed := by
  obtain ⟨fuel, rfl⟩ := Nat.exists_eq_add_of_le' enough
  rw [fieldsFrom_groups skipsGroups, groupsRead]
  cases soundGroups with
  | false => rfl
  | true =>
      simp only [if_true, Except.bind]
      rw [fieldsFrom_values skipsValues, valuesRead]
      cases soundValues with
      | false => rfl
      | true =>
          simp only [if_true, Except.bind]
          rw [fieldsFrom, Json.nextName_closing false blank]
          rfl

/-- A node starts with a bracket, and its fields are read up to the closing one. -/
theorem readNode_cons (text : Text) :
    readNode readGroups readValues ('\x7b' :: text) =
      (fieldsFrom readGroups readValues (text.length + 1) true ⟨none, none⟩ text).bind
        fun (found, rest) =>
          match found with
          | ⟨some groups, some values⟩ => .ok (node values groups, rest)
          | _ => .error .misshapen :=
  rfl

/-- A node is read if both of its fields are sound. -/
theorem readNode_write {values : List (Text × Text)} {groups : List (Text × Tree)}
    {soundGroups soundValues : Bool}
    (skipsGroups : readGroups.SkipsBlanks) (skipsValues : readValues.SkipsBlanks)
    (groupsRead : layout.ReadsIf soundGroups (level + 1) readGroups
      (.object (groups.map fun pair => (pair.1, toJson pair.2))) groups)
    (valuesRead : layout.ReadsIf soundValues (level + 1) readValues
      (.object (values.map fun pair => (pair.1, .str pair.2))) values) :
    layout.ReadsIf (soundGroups && soundValues) level (readNode readGroups readValues)
      (node values groups).toJson (node values groups) := by
  intro rest
  rw [toJson, groupsToJson_eq_map, Layout.write]
  have enough := layout.length_le_writeFields (level + 1)
    (layout.closing level false ++ '\x7d' :: rest)
    [(groupsField, .object (groups.map fun pair => (pair.1, toJson pair.2))),
      (valuesField, .object (values.map fun pair => (pair.1, .str pair.2)))]
  have fields := fieldsFrom_write skipsGroups skipsValues groupsRead valuesRead
    (layout.closing_blank level false) rest
    (Nat.succ_le_succ (Nat.le_trans (Nat.le_add_right 2 _) enough))
  rw [readNode_cons]
  apply (congrArg (Except.bind · _) fields).trans
  cases soundGroups <;> cases soundValues <;> rfl

end

theorem skipsBlanks_readNode (readGroups : Reader (List (Text × Tree)))
    (readValues : Reader (List (Text × Text))) :
    Reader.SkipsBlanks (readNode readGroups readValues) := by
  intro blanks text blank
  rw [readNode, readNode, Json.skipBlanks_append blank]

theorem skipsBlanks_readTree (levels : Nat) : Reader.SkipsBlanks (readTree levels) := by
  unfold readTree
  split
  · intro blanks text blank
    simp only [Json.skipBlanks_append blank]
  · exact skipsBlanks_readNode _ _
  · exact skipsBlanks_readNode _ _

/-- A node fits into some levels if its groups fit into two fewer. -/
theorem fits_node (values : List (Text × Text)) (groups : List (Text × Tree)) (levels : Nat) :
    decide (2 * (node values groups).depth + 2 ≤ levels + 2) =
      ((groups.all fun pair => decide (2 * pair.2.depth + 2 ≤ levels)) &&
        values.all fun _ => true) := by
  have fits : 2 * (node values groups).depth + 2 ≤ levels + 2 ↔
      ∀ pair ∈ groups, 2 * pair.2.depth + 2 ≤ levels :=
    calc
      _ ↔ (node values groups).depth ≤ levels / 2 := by omega
      _ ↔ ∀ pair ∈ groups, pair.2.depth + 1 ≤ levels / 2 := depth_node_le_iff values groups
      _ ↔ ∀ pair ∈ groups, 2 * pair.2.depth + 2 ≤ levels := by
        apply forall₂_congr
        intro pair member
        omega
  rw [Bool.eq_iff_iff, decide_eq_true_iff, fits]
  simp

/-- A tree is read where two objects may be opened for each of its levels, and those of one level
more. -/
theorem readTree_write {tree : Tree} (distinct : tree.DistinctNames) (levels level : Nat) :
    layout.ReadsIf (decide (2 * tree.depth + 2 ≤ levels)) level (readTree levels) tree.toJson
      tree := by
  induction tree generalizing levels level with
  | node values groups ih =>
    obtain ⟨distinctValues, distinctGroups, below⟩ := distinct
    match levels with
    | 0 =>
      intro rest
      rw [toJson, Layout.write]
      rfl
    | 1 =>
      have shallow : ¬ 2 * (node values groups).depth + 2 ≤ 1 := by omega
      rw [decide_eq_false shallow]
      exact readNode_write (Json.skipsBlanks_readObject _ _) (Json.skipsBlanks_readObject _ _)
        (Json.readObject_zero _ groups) (Json.readObject_zero _ values)
    | levels + 2 =>
      have groupsRead : layout.ReadsIf
          (groups.all fun pair => decide (2 * pair.2.depth + 2 ≤ levels)) (level + 1)
          (Json.readObject (levels + 1) (readTree levels))
          (.object (groups.map fun pair => (pair.1, toJson pair.2))) groups := by
        apply Json.readObject_write toJson (fun group => decide (2 * group.depth + 2 ≤ levels))
          (skipsBlanks_readTree levels) _ distinctGroups
        intro pair member
        exact ih pair.1 pair.2 member (below pair.1 pair.2 member) levels (level + 2)
      have valuesRead : layout.ReadsIf (values.all fun _ => true) (level + 1)
          (Json.readObject (levels + 1) Json.readString)
          (.object (values.map fun pair => (pair.1, .str pair.2))) values :=
        Json.readObject_write .str (fun _ => true) Json.skipsBlanks_readString
          (fun pair _ => Json.readString_write pair.2) distinctValues levels
      rw [fits_node]
      exact readNode_write (Json.skipsBlanks_readObject _ _) (Json.skipsBlanks_readObject _ _)
        groupsRead valuesRead

/-- A tree that is written in a layout is read back, unless it is too deep. -/
theorem ofJson_write {tree : Tree} (distinct : tree.DistinctNames) :
    ofJson (layout.write 0 [] tree.toJson) =
      if tree.depth ≤ 62 then .ok tree else .error .malformed := by
  have enough : decide (2 * tree.depth + 2 ≤ levelLimit) = decide (tree.depth ≤ 62) := by
    rw [decide_eq_decide, levelLimit]
    omega
  have read : layout.ReadsIf _ 0 (readTree levelLimit) tree.toJson tree :=
    readTree_write distinct levelLimit 0
  rw [enough] at read
  rw [ofJson, Json.readAll, read]
  by_cases shallow : tree.depth ≤ 62
  · simp only [shallow, decide_true, if_true]
    rfl
  · simp only [shallow, decide_false, Bool.false_eq_true, if_false]
    rfl

/-- **JSON and back.** The text of a tree, compact or as it is shown, is read back as the same tree,
with all names in their order, if its deepest group stands at most 62 levels below the root. The
text of any other tree is refused as malformed. -/
theorem json_round_trip (tree : Tree) (distinct : tree.DistinctNames) (label : Text) :
    (tree.depth ≤ 62 → ofJson tree.toJson.compact = .ok tree ∧
      ofJson (tree.render label .json) = .ok tree) ∧
    (63 ≤ tree.depth → ofJson tree.toJson.compact = .error .malformed ∧
      ofJson (tree.render label .json) = .error .malformed) := by
  have compact : ofJson tree.toJson.compact =
      if tree.depth ≤ 62 then .ok tree else .error .malformed := by
    rw [Json.compact, ← Layout.write_compact 0]
    exact ofJson_write distinct
  have pretty : ofJson (tree.render label .json) =
      if tree.depth ≤ 62 then .ok tree else .error .malformed := by
    rw [render, Json.pretty, ← Layout.write_pretty]
    exact ofJson_write distinct
  rw [compact, pretty]
  constructor
  · intro shallow
    rw [if_pos shallow]
    exact ⟨rfl, rfl⟩
  · intro deep
    rw [if_neg (Nat.not_le_of_lt deep)]
    exact ⟨rfl, rfl⟩

/-- Groups that stand inside each other, under a name with a hyphen, down to a value with a quote
and an escape. -/
def nested : Nat → Tree
  | 0 => node [(['k'], ['"', '\x1b'])] []
  | levels + 1 => node [] [(['a', '-', 'b'], nested levels)]

theorem depth_nested (levels : Nat) : (nested levels).depth = levels := by
  induction levels with
  | zero => rfl
  | succ levels ih => simp [nested, depth, groupsDepth, ih]

theorem distinctNames_nested (levels : Nat) : (nested levels).DistinctNames := by
  induction levels with
  | zero => exact .node (by decide) (by decide) (by simp)
  | succ levels ih =>
      apply DistinctNames.node
      · simp [Assoc.names]
      · simp [Assoc.names]
      · intro name group member
        obtain ⟨rfl, rfl⟩ := Prod.mk.inj (List.mem_singleton.mp member)
        exact ih

/-- The deepest nested groups that are read back, and one level more. -/
theorem json_round_trip_of_nested :
    ofJson (nested 62).toJson.compact = .ok (nested 62) ∧
      ofJson ((nested 62).render ['x'] .json) = .ok (nested 62) ∧
      ofJson (nested 63).toJson.compact = .error .malformed ∧
      ofJson ((nested 63).render ['x'] .json) = .error .malformed := by
  obtain ⟨compact, pretty⟩ := (json_round_trip (nested 62) (distinctNames_nested 62) ['x']).1
    (Nat.le_of_eq (depth_nested 62))
  exact ⟨compact, pretty, (json_round_trip (nested 63) (distinctNames_nested 63) ['x']).2
    (Nat.le_of_eq (depth_nested 63).symm)⟩

end DocTags.Tree
