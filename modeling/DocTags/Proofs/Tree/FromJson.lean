/-
# Trees that are read from JSON

A JSON text may give values and groups any names, also ones with hyphens, which no key leads to. All
that a tree owes to having been read is that the names of each node are distinct, since what comes
under a name again takes the place of what came before. So its entries can be looked up under
distinct keys exactly if no name on the way to a value has a hyphen.
-/

import DocTags.Proofs.Assoc
import DocTags.Proofs.Except
import DocTags.Proofs.Tree.ReadBack
import DocTags.Tree.Json
import Mathlib.Data.List.Permutation

namespace DocTags

/-! ## What readers give -/

namespace Json

variable {α : Type} {p : α → Prop}

/-- Whatever a reader gives has a property. -/
def Reader.Gives (reader : Reader α) (p : α → Prop) : Prop :=
  ∀ text value rest, reader text = .ok (value, rest) → p value

/-- A reader that refuses every text gives nothing. -/
theorem gives_of_refusal (refusal : Text → Fault) :
    Reader.Gives (α := α) (fun text => .error (refusal text)) p := by
  intro text value rest accepted
  cases accepted

/-- The fields of an object have distinct names, and their values have a property. -/
structure IsObjectOf (p : α → Prop) (fields : List (Text × α)) : Prop where
  distinct : (Assoc.names fields).Nodup
  values : ∀ name value, (name, value) ∈ fields → p value

theorem IsObjectOf.nil : IsObjectOf p [] where
  distinct := List.nodup_nil
  values := by simp

/-- A further field takes the place of one with its name. -/
theorem IsObjectOf.put {fields : List (Text × α)} (object : IsObjectOf p fields) (name : Text)
    {value : α} (holds : p value) : IsObjectOf p (Assoc.put name value fields) where
  distinct := Assoc.nodup_names_alter name _ object.distinct
  values other item member := by
    rcases Assoc.mem_alter member with old | new
    · exact object.values other item old
    · obtain ⟨-, rfl⟩ := Prod.mk.inj new
      exact holds

/-- Whatever fields are added to an object, it stays one. -/
theorem entriesFrom_gives {reader : Reader α} (gives : reader.Gives p) (fuel : Nat) (first : Bool)
    {found : List (Text × α)} (object : IsObjectOf p found) :
    (entriesFrom reader fuel first found).Gives (IsObjectOf p) := by
  induction fuel generalizing first found with
  | zero =>
      intro text fields rest accepted
      cases accepted
  | succ fuel ih =>
      intro text fields rest accepted
      rw [entriesFrom, bind_eq_ok_iff] at accepted
      obtain ⟨⟨more, afterName⟩, -, accepted⟩ := accepted
      cases more with
      | false =>
          cases accepted
          exact object
      | true =>
          simp only [if_true, bind_eq_ok_iff] at accepted
          obtain ⟨⟨name, afterName⟩, -, ⟨_, afterColon⟩, -, ⟨item, afterItem⟩, read, accepted⟩ :=
            accepted
          exact ih false (object.put name (gives afterColon item afterItem read)) _ _ _ accepted

/-- The fields of an object that is read have distinct names. -/
theorem readObject_gives {reader : Reader α} (gives : reader.Gives p) (levels : Nat) :
    (readObject levels reader).Gives (IsObjectOf p) := by
  intro text fields rest accepted
  rw [readObject] at accepted
  split at accepted
  · split at accepted
    · cases accepted
    · exact entriesFrom_gives gives _ true .nil _ _ _ accepted
  · cases accepted

/-- A whole text gives what its reader gives. -/
theorem readAll_gives {reader : Reader α} (gives : reader.Gives p) {text : Text} {value : α}
    (accepted : readAll reader text = .ok value) : p value := by
  rw [readAll, bind_eq_ok_iff] at accepted
  obtain ⟨⟨read, rest⟩, here, accepted⟩ := accepted
  dsimp only at accepted
  split at accepted
  · cases accepted
    exact gives _ _ _ here
  · cases accepted

end Json

namespace Tree

open Json (Reader IsObjectOf)

section

variable {readGroups : Reader (List (Text × Tree))} {readValues : Reader (List (Text × Text))}
  {ofGroups : List (Text × Tree) → Prop} {ofValues : List (Text × Text) → Prop}

/-- What has been read of the fields of a node has the properties of its readers. -/
structure Fields.Holds (ofGroups : List (Text × Tree) → Prop) (ofValues : List (Text × Text) → Prop)
    (found : Fields) : Prop where
  groups : ∀ groups, found.groups = some groups → ofGroups groups
  values : ∀ values, found.values = some values → ofValues values

theorem Fields.Holds.none : Fields.Holds ofGroups ofValues ⟨none, none⟩ where
  groups := by simp
  values := by simp

theorem Fields.Holds.withGroups {found : Fields} (holds : found.Holds ofGroups ofValues)
    {groups : List (Text × Tree)} (good : ofGroups groups) :
    Fields.Holds ofGroups ofValues { found with groups := some groups } where
  groups _ same := Option.some.inj same ▸ good
  values := holds.values

theorem Fields.Holds.withValues {found : Fields} (holds : found.Holds ofGroups ofValues)
    {values : List (Text × Text)} (good : ofValues values) :
    Fields.Holds ofGroups ofValues { found with values := some values } where
  groups := holds.groups
  values _ same := Option.some.inj same ▸ good

/-- Reading further fields keeps the properties. -/
theorem fieldsFrom_gives (groupsGive : readGroups.Gives ofGroups)
    (valuesGive : readValues.Gives ofValues) (fuel : Nat) (first : Bool) {found : Fields}
    (holds : found.Holds ofGroups ofValues) :
    (fieldsFrom readGroups readValues fuel first found).Gives (Fields.Holds ofGroups ofValues) := by
  induction fuel generalizing first found with
  | zero =>
      intro text fields rest accepted
      cases accepted
  | succ fuel ih =>
      intro text fields rest accepted
      rw [fieldsFrom, bind_eq_ok_iff] at accepted
      obtain ⟨⟨more, afterName⟩, -, accepted⟩ := accepted
      cases more with
      | false =>
          cases accepted
          exact holds
      | true =>
          simp only [if_true, bind_eq_ok_iff] at accepted
          obtain ⟨⟨name, afterName⟩, -, accepted⟩ := accepted
          dsimp only at accepted
          split at accepted
          · split at accepted
            · cases accepted
            · simp only [bind_eq_ok_iff] at accepted
              obtain ⟨⟨_, afterColon⟩, -, ⟨groups, afterGroups⟩, read, accepted⟩ := accepted
              exact ih false (holds.withGroups (groupsGive _ groups _ read)) _ _ _ accepted
          split at accepted
          · split at accepted
            · cases accepted
            · simp only [bind_eq_ok_iff] at accepted
              obtain ⟨⟨_, afterColon⟩, -, ⟨values, afterValues⟩, read, accepted⟩ := accepted
              exact ih false (holds.withValues (valuesGive _ values _ read)) _ _ _ accepted
          · simp only [bind_eq_ok_iff] at accepted
            obtain ⟨⟨_, afterColon⟩, -, ⟨_, afterValue⟩, -, accepted⟩ := accepted
            exact ih false holds _ _ _ accepted

/-- A node is made of groups and values that were read. -/
theorem readNode_gives (groupsGive : readGroups.Gives ofGroups)
    (valuesGive : readValues.Gives ofValues) :
    (readNode readGroups readValues).Gives fun tree => ofGroups tree.groups ∧ ofValues tree.values := by
  intro text tree rest accepted
  rw [readNode] at accepted
  split at accepted
  · rw [bind_eq_ok_iff] at accepted
    obtain ⟨⟨found, afterFields⟩, read, accepted⟩ := accepted
    have holds := fieldsFrom_gives groupsGive valuesGive _ true .none _ _ _ read
    dsimp only at accepted
    split at accepted
    · cases accepted
      exact ⟨holds.groups _ rfl, holds.values _ rfl⟩
    · cases accepted
  · rw [bind_eq_ok_iff] at accepted
    obtain ⟨⟨more, atGroups⟩, -, accepted⟩ := accepted
    cases more with
    | false => cases accepted
    | true =>
        simp only [Bool.not_true, Bool.false_eq_true, if_false, bind_eq_ok_iff] at accepted
        obtain ⟨⟨groups, afterGroups⟩, groupsRead, ⟨more, atValues⟩, -, accepted⟩ := accepted
        cases more with
        | false => cases accepted
        | true =>
            simp only [Bool.not_true, Bool.false_eq_true, if_false, bind_eq_ok_iff] at accepted
            obtain ⟨⟨values, afterValues⟩, valuesRead, ⟨_, afterArray⟩, -, accepted⟩ := accepted
            cases accepted
            exact ⟨groupsGive _ _ _ groupsRead, valuesGive _ _ _ valuesRead⟩
  · cases accepted

end

/-- The strings of an object have distinct names, whatever they are. -/
theorem readValues_gives (levels : Nat) :
    (Json.readObject levels Json.readString).Gives (IsObjectOf fun _ => True) :=
  Json.readObject_gives (fun _ _ _ _ => trivial) levels

/-- A node has distinct names if its groups are read as an object of trees that have them. -/
theorem readNode_distinctNames {readGroups : Reader (List (Text × Tree))} (levels : Nat)
    (groupsGive : readGroups.Gives (IsObjectOf DistinctNames)) :
    (readNode readGroups (Json.readObject levels Json.readString)).Gives DistinctNames := by
  intro text tree rest accepted
  obtain ⟨values, groups⟩ := tree
  obtain ⟨ofGroups, ofValues⟩ :=
    readNode_gives groupsGive (readValues_gives levels) text _ rest accepted
  exact .node ofValues.distinct ofGroups.distinct ofGroups.values

/-- A tree that is read has distinct names at every node. -/
theorem readTree_gives (levels : Nat) : (readTree levels).Gives DistinctNames := by
  induction levels using Nat.twoStepInduction with
  | zero =>
      intro text tree rest accepted
      simp only [readTree] at accepted
      split at accepted <;> cases accepted
  | one => exact readNode_distinctNames 0 (Json.readObject_gives (Json.gives_of_refusal _) 0)
  | more levels ih _ => exact readNode_distinctNames (levels + 1) (Json.readObject_gives ih _)

/-- So has the tree of a whole text. -/
theorem distinctNames_of_ofJson {text : Text} {tree : Tree} (accepted : ofJson text = .ok tree) :
    tree.DistinctNames :=
  Json.readAll_gives (readTree_gives levelLimit) accepted

/-- **Trees from JSON.** The names of every node of a tree that is read from JSON are distinct. Its
entries have distinct keys under which their values are found exactly if, groups without any value
below them aside, no name of a group or of a value has a hyphen at any depth. -/
theorem readsBack_of_ofJson {text : Text} {tree : Tree} (accepted : ofJson text = .ok tree) :
    tree.DistinctNames ∧ (tree.ReadsBack ↔ tree.prune.NamesAll IsPlain) := by
  have distinct := distinctNames_of_ofJson accepted
  exact ⟨distinct, distinct.readsBack_iff⟩

/-- A text in which one name comes twice, and a name with a hyphen once. -/
def repeatedName : Text :=
  ("\x7b\"groups\":\x7b\"a\":[\x7b\x7d,\x7b\"b\":\"x\",\"b\":\"y\"\x7d]," ++
    "\"c-d\":[\x7b\x7d,\x7b\x7d]\x7d,\"values\":\x7b\x7d\x7d").toList

theorem ofJson_repeatedName :
    ofJson repeatedName =
      .ok (node [] [(['a'], node [(['b'], ['y'])] []), (['c', '-', 'd'], node [] [])]) := by
  cbv

/-- The last of two values under one name stays, and a bare group may have any name. -/
theorem readsBack_of_ofJson_of_repeated_name :
    ∃ tree, ofJson repeatedName = .ok tree ∧ tree.DistinctNames ∧ tree.ReadsBack := by
  obtain ⟨distinct, reads⟩ := readsBack_of_ofJson ofJson_repeatedName
  refine ⟨_, ofJson_repeatedName, distinct, reads.mpr ?_⟩
  rw [prune, pruneGroups_eq]
  refine .node (by decide) (by decide) fun name group member => ?_
  obtain ⟨-, rfl⟩ := Prod.mk.inj (List.mem_singleton.mp member)
  exact .node (by decide) (by decide) (by simp [pruneGroups])

/-- A text in which a value and a value of a group lie under one key. -/
def hyphenatedName : Text :=
  ("\x7b\"groups\":\x7b\"a\":\x7b\"groups\":\x7b\x7d,\"values\":\x7b\"b\":\"x\"\x7d\x7d\x7d," ++
    "\"values\":\x7b\"a-b\":\"y\"\x7d\x7d").toList

/-- A value whose name has a hyphen is read. Its key is the one of the value of a group, and a
lookup finds the latter. -/
theorem ofJson_of_hyphenated_name :
    ∃ tree, ofJson hyphenatedName = .ok tree ∧ ¬ tree.NamesAll IsPlain ∧
      tree.entries = [(['a', '-', 'b'], ['y']), (['a', '-', 'b'], ['x'])] ∧
      tree.lookup ['a', '-', 'b'] = some ['x'] := by
  refine ⟨node [(['a', '-', 'b'], ['y'])] [(['a'], node [(['b'], ['x'])] [])], by cbv, ?_,
    by decide, by decide⟩
  rintro ⟨plain, -, -⟩
  exact plain ['a', '-', 'b'] (by decide) (by decide)

end Tree

end DocTags
