/-
# Trees that are known by their lookups

Two trees that only insertions built are the same up to order just if the same values are found in
them under the same keys. One direction needs distinct names, so that as many names on both sides,
all of the first among those of the second, are the same names. The other one needs that every group
has a value somewhere below it: a group without one would not be seen by any lookup, but it makes a
tree a different one.

As the entries of such a tree are the pairs that lookups find, it is also known by its entries in
any order.
-/

import DocTags.Proofs.Tree.Rebuild
import Mathlib.Data.List.Nodup
import Mathlib.Data.List.Perm.Subperm

namespace DocTags

/-! ## Associations -/

namespace Assoc

variable {α β γ : Type} [DecidableEq α] [BEq α] [LawfulBEq α]

/-- Related lookups find nothing, or things that are related. -/
theorem rel_iff {like : β → γ → Prop} {here : Option β} {there : Option γ} :
    Option.Rel like here there ↔
      (here = none ∧ there = none) ∨
        ∃ value other, here = some value ∧ there = some other ∧ like value other := by
  constructor
  · intro related
    cases related with
    | none => exact Or.inl ⟨rfl, rfl⟩
    | some alike => exact Or.inr ⟨_, _, rfl, rfl, alike⟩
  · rintro (⟨rfl, rfl⟩ | ⟨value, other, rfl, rfl, alike⟩)
    · exact .none
    · exact .some alike

/-- Lookups are related if both find something, or none does, and what they find is related. -/
theorem rel_of_exists_iff {like : β → γ → Prop} {here : Option β} {there : Option γ}
    (stands : (∃ value, here = some value) ↔ ∃ other, there = some other)
    (alike : ∀ value other, here = some value → there = some other → like value other) :
    Option.Rel like here there := by
  cases here with
  | none =>
      cases there with
      | none => exact .none
      | some other =>
          obtain ⟨value, found⟩ := stands.mpr ⟨other, rfl⟩
          cases found
  | some value =>
      obtain ⟨other, rfl⟩ := stands.mp ⟨value, rfl⟩
      exact .some (alike value other rfl rfl)

/-- The names that stand in an association are those under which something is found. -/
theorem exists_lookup_iff_mem_names {pairs : List (α × β)} (distinct : (names pairs).Nodup)
    (name : α) : (∃ value, pairs.lookup name = some value) ↔ name ∈ names pairs := by
  simp only [lookup_eq_some_iff_mem distinct, names, List.mem_map, Prod.exists, exists_and_right,
    exists_eq_right]

/-- Two associations have the same names just if lookups find something under the same names. -/
theorem names_perm_iff {pairs : List (α × β)} {others : List (α × γ)}
    (distinct : (names pairs).Nodup) (othersDistinct : (names others).Nodup) :
    (names pairs).Perm (names others) ↔
      ∀ name, (∃ value, pairs.lookup name = some value) ↔
        ∃ other, others.lookup name = some other := by
  simp only [List.perm_ext_iff_of_nodup distinct othersDistinct,
    exists_lookup_iff_mem_names distinct, exists_lookup_iff_mem_names othersDistinct]

/-- Where names are distinct, an association has as many names as another one and everything of it
has its like there just if lookups find either nothing in both or things that are alike. -/
theorem forall_lookup_iff {pairs : List (α × β)} {others : List (α × γ)} {like : β → γ → Prop}
    (distinct : (names pairs).Nodup) (othersDistinct : (names others).Nodup) :
    (pairs.length = others.length ∧ ∀ name value, (name, value) ∈ pairs →
        ∃ other, others.lookup name = some other ∧ like value other) ↔
      ∀ name, Option.Rel like (pairs.lookup name) (others.lookup name) := by
  constructor
  · intro ⟨lengths, alike⟩ name
    have fewer : names pairs ⊆ names others := by
      intro known member
      obtain ⟨⟨_, value⟩, inPairs, rfl⟩ := List.mem_map.mp member
      obtain ⟨other, found, -⟩ := alike _ value inPairs
      exact (exists_lookup_iff_mem_names othersDistinct _).mp ⟨other, found⟩
    have sameNames : (names pairs).Perm (names others) := by
      apply (List.subperm_of_subset distinct fewer).perm_of_length_le
      simp [names, lengths]
    apply rel_of_exists_iff ((names_perm_iff distinct othersDistinct).mp sameNames name)
    intro value other here there
    obtain ⟨found, again, both⟩ := alike name value (mem_of_lookup here)
    obtain rfl := Option.some.inj (there.symm.trans again)
    exact both
  · intro alike
    have sameNames : (names pairs).Perm (names others) := by
      apply (names_perm_iff distinct othersDistinct).mpr
      intro name
      obtain ⟨here, there⟩ | ⟨value, other, here, there, -⟩ := rel_iff.mp (alike name) <;>
        simp [here, there]
    refine ⟨?_, fun name value member => ?_⟩
    · simpa [names] using sameNames.length_eq
    · have here := (lookup_eq_some_iff_mem distinct name value).mpr member
      obtain ⟨missing, -⟩ | ⟨found, other, again, there, both⟩ := rel_iff.mp (alike name)
      · exact absurd (here.symm.trans missing) (Option.some_ne_none value)
      · obtain rfl := Option.some.inj (here.symm.trans again)
        exact ⟨other, there, both⟩

/-- Lookups among pairs with distinct names find the same in whatever order the pairs stand. -/
theorem lookup_eq_of_perm {pairs others : List (α × β)} (distinct : (names pairs).Nodup)
    (permuted : pairs.Perm others) (name : α) : pairs.lookup name = others.lookup name := by
  have othersDistinct : (names others).Nodup := (permuted.map Prod.fst).nodup_iff.mp distinct
  apply Option.ext
  intro value
  rw [lookup_eq_some_iff_mem distinct, lookup_eq_some_iff_mem othersDistinct, permuted.mem_iff]

end Assoc

namespace Tree

/-- Nothing stands under a hyphenated name. -/
theorem PlainNames.lookup_of_hyphen {β : Type} {pairs : List (Text × β)} (names : PlainNames pairs)
    {name : Text} (hyphen : '-' ∈ name) : pairs.lookup name = none :=
  Assoc.lookup_eq_none_of_not_mem fun member => names.plain name member hyphen

/-! ## Nodes -/

section

variable {values others : List (Text × Text)} {groups otherGroups : List (Text × Tree)}

/-- The values of two nodes are the same just if lookups among them are. -/
theorem sameValues_iff (plain : PlainNames values) (otherPlain : PlainNames others) :
    sameValues values others ↔ ∀ name, values.lookup name = others.lookup name := by
  have alike : _ ↔ ∀ name, Option.Rel Eq (values.lookup name) (others.lookup name) :=
    Assoc.forall_lookup_iff plain.distinct otherPlain.distinct
  have related : ∀ first second : Option Text, Option.Rel Eq first second ↔ first = second := by
    intro first second
    cases first <;> cases second <;> simp
  simp only [related] at alike
  rw [← alike, sameValues]
  simp

/-- Two nodes are the same up to order just if lookups find the same values in both, and groups that
are the same. -/
theorem same_node_iff (plainValues : PlainNames values) (otherValues : PlainNames others)
    (plainGroups : PlainNames groups) (otherPlain : PlainNames otherGroups) :
    same (node values groups) (node others otherGroups) ↔
      (∀ name, values.lookup name = others.lookup name) ∧
        ∀ name, Option.Rel (fun group other => same group other)
          (groups.lookup name) (otherGroups.lookup name) := by
  rw [← sameValues_iff plainValues otherValues,
    ← Assoc.forall_lookup_iff plainGroups.distinct otherPlain.distinct, same, Bool.and_eq_true,
    Bool.and_eq_true, sameGroups_iff, beq_iff_eq, and_assoc]
  rfl

/-- In a tree without bare groups there is a group under a plain name just if some key that starts
with this name finds a value. -/
theorem exists_group_iff_exists_lookup (named : WellNamed (node values groups))
    (full : ¬ HasBareGroup (node values groups)) {name : Text} (plain : '-' ∉ name) :
    (∃ group, groups.lookup name = some group) ↔
      ∃ key value, (node values groups).lookup (name ++ '-' :: key) = some value := by
  simp only [lookup_qualified plain, Option.bind_eq_some_iff]
  constructor
  · intro ⟨group, here⟩
    obtain ⟨-, -, below⟩ := named
    have member := Assoc.mem_of_lookup here
    have notBare : ¬ group.isBare := fun bare => full (.here member bare)
    obtain ⟨⟨key, value⟩, inside⟩ :=
      List.exists_mem_of_ne_nil _ (mt (isBare_iff_entries_eq_nil group).mpr notBare)
    exact ⟨key, value, group, here, ((below name group member).mem_entries_iff key value).mp inside⟩
  · intro ⟨key, value, group, here, found⟩
    exact ⟨group, here⟩

/-- Trees without bare groups that have the same lookups have groups of the same names, and the same
lookups in each of them. -/
theorem rel_lookup_groups (named : WellNamed (node values groups))
    (otherNamed : WellNamed (node others otherGroups)) (full : ¬ HasBareGroup (node values groups))
    (otherFull : ¬ HasBareGroup (node others otherGroups))
    (agree : ∀ key, (node values groups).lookup key = (node others otherGroups).lookup key)
    (name : Text) :
    Option.Rel (fun group other => ∀ key, group.lookup key = other.lookup key)
      (groups.lookup name) (otherGroups.lookup name) := by
  by_cases hyphen : '-' ∈ name
  · obtain ⟨-, plainGroups, -⟩ := named
    obtain ⟨-, otherPlain, -⟩ := otherNamed
    rw [plainGroups.lookup_of_hyphen hyphen, otherPlain.lookup_of_hyphen hyphen]
    exact .none
  · apply Assoc.rel_of_exists_iff
    · rw [exists_group_iff_exists_lookup named full hyphen,
        exists_group_iff_exists_lookup otherNamed otherFull hyphen]
      simp only [agree]
    · intro group other here there key
      have whole := agree (name ++ '-' :: key)
      rw [lookup_qualified hyphen, lookup_qualified hyphen] at whole
      simpa only [Tree.groups, here, there, Option.bind_some] using whole

end

/-! ## Lookups -/

/-- Trees that are the same up to order have the same lookups. -/
theorem WellNamed.lookup_eq_of_same {first second : Tree} (named : WellNamed first)
    (otherNamed : WellNamed second) (alike : same first second) (key : Text) :
    first.lookup key = second.lookup key := by
  induction named generalizing second key with
  | @node values groups plainValues plainGroups below ih =>
      cases otherNamed with
      | @node others otherGroups otherValues otherPlain otherBelow =>
          obtain ⟨valuesAlike, groupsAlike⟩ :=
            (same_node_iff plainValues otherValues plainGroups otherPlain).mp alike
          by_cases hyphen : '-' ∈ key
          · obtain ⟨name, rest, plain, rfl⟩ := exists_qualified hyphen
            rw [lookup_qualified plain, lookup_qualified plain]
            simp only [Tree.groups]
            obtain ⟨here, there⟩ | ⟨group, other, here, there, both⟩ :=
              Assoc.rel_iff.mp (groupsAlike name)
            · rw [here, there]
            · rw [here, there]
              exact ih name group (Assoc.mem_of_lookup here)
                (otherBelow name other (Assoc.mem_of_lookup there)) both rest
          · rw [lookup_of_plain hyphen, lookup_of_plain hyphen]
            exact valuesAlike key

/-- Trees with the same lookups are the same up to order, if they have no bare groups. -/
theorem WellNamed.same_of_lookup_eq {first second : Tree} (named : WellNamed first)
    (otherNamed : WellNamed second) (full : ¬ HasBareGroup first)
    (otherFull : ¬ HasBareGroup second) (agree : ∀ key, first.lookup key = second.lookup key) :
    same first second := by
  induction named generalizing second with
  | @node values groups plainValues plainGroups below ih =>
      have named : WellNamed (Tree.node values groups) := .node plainValues plainGroups below
      cases second with
      | node others otherGroups =>
          obtain ⟨otherValues, otherPlain, otherBelow⟩ := id otherNamed
          apply (same_node_iff plainValues otherValues plainGroups otherPlain).mpr
          constructor
          · intro name
            by_cases hyphen : '-' ∈ name
            · rw [plainValues.lookup_of_hyphen hyphen, otherValues.lookup_of_hyphen hyphen]
            · have found := agree name
              rwa [lookup_of_plain hyphen, lookup_of_plain hyphen] at found
          · intro name
            obtain ⟨here, there⟩ | ⟨group, other, here, there, inside⟩ := Assoc.rel_iff.mp
              (rel_lookup_groups named otherNamed full otherFull agree name)
            · rw [here, there]
              exact .none
            · have member := Assoc.mem_of_lookup here
              have otherMember := Assoc.mem_of_lookup there
              have fullBelow : ¬ HasBareGroup group := fun bare => full (.deeper member bare)
              have otherFullBelow : ¬ HasBareGroup other :=
                fun bare => otherFull (.deeper otherMember bare)
              rw [here, there]
              exact .some (ih name group member (otherBelow name other otherMember) fullBelow
                otherFullBelow inside)

/-- The entries are the same in some order just if the lookups are. -/
theorem WellNamed.entries_perm_iff {first second : Tree} (named : WellNamed first)
    (otherNamed : WellNamed second) :
    first.entries.Perm second.entries ↔ ∀ key, first.lookup key = second.lookup key := by
  rw [List.perm_ext_iff_of_nodup (List.Nodup.of_map _ named.nodup_names_entries)
    (List.Nodup.of_map _ otherNamed.nodup_names_entries)]
  simp only [Prod.forall, named.mem_entries_iff, otherNamed.mem_entries_iff]
  refine forall_congr' fun key => ?_
  exact ⟨Option.ext, fun agree value => by rw [agree]⟩

/-! ## Pairs in any order -/

/-- Behind insertions under distinct keys the pairs are found, and what was there before. -/
theorem lookup_insertAll {pairs : List (Text × Text)} (distinct : (Assoc.names pairs).Nodup)
    (key : Text) (tree : Tree) :
    (insertAll pairs tree).lookup key = (pairs.lookup key).or (tree.lookup key) := by
  induction pairs generalizing tree with
  | nil => rfl
  | cons pair rest ih =>
      obtain ⟨name, value⟩ := pair
      obtain ⟨fresh, restDistinct⟩ := List.nodup_cons.mp distinct
      rw [insertAll_cons, ih restDistinct, lookup_insert, Assoc.lookup_cons_eq_ite]
      by_cases same : key = name
      · subst same
        simp [Assoc.lookup_eq_none_of_not_mem fresh]
      · simp [same]

/-- A tree that pairs with distinct keys make holds these pairs. -/
theorem lookup_ofEntries {pairs : List (Text × Text)} (distinct : (Assoc.names pairs).Nodup)
    (key : Text) : (ofEntries pairs).lookup key = pairs.lookup key := by
  show (insertAll pairs empty).lookup key = pairs.lookup key
  rw [lookup_insertAll distinct, lookup_empty, Option.or_none]

/-- Pairs that are inserted into an empty tree make one that only insertions built. -/
theorem inserted_ofEntries (pairs : List (Text × Text)) : Inserted (ofEntries pairs) :=
  List.foldlRecOn pairs _ .empty fun _ built pair _ => .insert pair.1 pair.2 built

/-- Trees that only insertions built are the same up to order just if their lookups are. -/
theorem Inserted.same_iff {first second : Tree} (built : Inserted first)
    (otherBuilt : Inserted second) :
    same first second ↔ ∀ key, first.lookup key = second.lookup key :=
  ⟨built.reachable.wellNamed.lookup_eq_of_same otherBuilt.reachable.wellNamed,
    built.reachable.wellNamed.same_of_lookup_eq otherBuilt.reachable.wellNamed
      built.not_hasBareGroup otherBuilt.not_hasBareGroup⟩

/-- The order of pairs with distinct keys does not matter to the tree that they make. -/
theorem same_ofEntries_of_perm {pairs others : List (Text × Text)}
    (distinct : (Assoc.names pairs).Nodup) (permuted : pairs.Perm others) :
    same (ofEntries pairs) (ofEntries others) := by
  have othersDistinct : (Assoc.names others).Nodup :=
    (permuted.map Prod.fst).nodup_iff.mp distinct
  apply ((inserted_ofEntries pairs).same_iff (inserted_ofEntries others)).mpr
  intro key
  rw [lookup_ofEntries distinct, lookup_ofEntries othersDistinct,
    Assoc.lookup_eq_of_perm distinct permuted]

/-- **Extensionality.** Two trees that only insertions built are the same up to order just if the
same values are found under the same keys, and just if their entries are the same in some order. So
pairs with distinct keys make the same tree in whatever order they are inserted. -/
theorem same_iff_lookup_eq {first second : Tree} (built : Inserted first)
    (otherBuilt : Inserted second) :
    (same first second ↔ ∀ key, first.lookup key = second.lookup key) ∧
      (same first second ↔ first.entries.Perm second.entries) ∧
      ∀ pairs others : List (Text × Text), (Assoc.names pairs).Nodup → pairs.Perm others →
        same (ofEntries pairs) (ofEntries others) := by
  have lookups := built.same_iff otherBuilt
  have listings := built.reachable.wellNamed.entries_perm_iff otherBuilt.reachable.wellNamed
  exact ⟨lookups, lookups.trans listings.symm, fun _ _ => same_ofEntries_of_perm⟩

/-- The tags of a comment and the same pairs in other orders. -/
theorem same_iff_lookup_eq_of_orders :
    let pairs := [("b-c".toList, ['1']), (['a'], ['2']), ("b-d".toList, ['3'])]
    let others := [("b-d".toList, ['3']), ("b-c".toList, ['1']), (['a'], ['2'])]
    (Assoc.names pairs).Nodup ∧ pairs.Perm others ∧ same (ofEntries pairs) (ofEntries others) ∧
      ∃ parsed, Comment.parse "/**\n@b-d 3\n@a 2\n@b-c 1*/".toList = .ok parsed ∧
        Inserted parsed ∧ Inserted (ofEntries pairs) ∧
        (same parsed (ofEntries pairs) ↔
          ∀ key, parsed.lookup key = (ofEntries pairs).lookup key) ∧
        (same parsed (ofEntries pairs) ↔ parsed.entries.Perm (ofEntries pairs).entries) := by
  intro pairs others
  obtain ⟨parsed, success⟩ : ∃ parsed,
      Comment.parse "/**\n@b-d 3\n@a 2\n@b-c 1*/".toList = .ok parsed := ⟨_, rfl⟩
  have built : Inserted parsed := .parsed success
  have distinct : (Assoc.names pairs).Nodup := by decide
  have permuted : pairs.Perm others := by decide
  obtain ⟨lookups, listings, orders⟩ := same_iff_lookup_eq built (inserted_ofEntries pairs)
  exact ⟨distinct, permuted, orders pairs others distinct permuted, parsed, success, built,
    inserted_ofEntries pairs, lookups, listings⟩

end Tree

end DocTags
