/-
# Trees that are the same up to order

The comparison that ignores order is read level by level: as many values and groups on both sides,
and everything of the first tree under the same name in the second. A well-named tree is the same
as itself, since there a name leads back to what stands under it.
-/

import DocTags.Proofs.Tree.Reachable
import DocTags.Tree.Same

namespace DocTags.Tree

/-- Groups have their like among others when each finds its like under its own name. -/
theorem sameGroups_iff (groups others : List (Text × Tree)) :
    sameGroups groups others ↔ ∀ name group, (name, group) ∈ groups →
      ∃ other, others.lookup name = some other ∧ same group other := by
  induction groups with
  | nil => simp [sameGroups]
  | cons pair rest ih =>
      obtain ⟨first, tree⟩ := pair
      rw [sameGroups, Bool.and_eq_true, ih]
      refine ⟨fun ⟨head, tail⟩ => ?_, fun all => ⟨?_, ?_⟩⟩
      · intro name group member
        rcases List.mem_cons.mp member with here | later
        · obtain ⟨rfl, rfl⟩ := Prod.mk.inj here
          cases found : others.lookup name with
          | none => simp [found] at head
          | some other => exact ⟨other, rfl, by simpa [found] using head⟩
        · exact tail name group later
      · obtain ⟨other, found, like⟩ := all first tree List.mem_cons_self
        simpa [found] using like
      · intro name group later
        exact all name group (List.mem_cons_of_mem _ later)

/-- Plainly named values are the same values as themselves. -/
theorem sameValues_refl {values : List (Text × Text)} (names : PlainNames values) :
    sameValues values values := by
  simp only [sameValues, beq_self_eq_true, Bool.true_and, List.all_eq_true, beq_iff_eq]
  intro pair member
  exact (Assoc.lookup_eq_some_iff_mem names.distinct pair.1 pair.2).mpr member

/-- A well-named tree is the same as itself. -/
theorem WellNamed.same_refl {tree : Tree} (named : WellNamed tree) : same tree tree := by
  induction named with
  | @node values groups plainValues plainGroups _ ih =>
      have groupsAlike : sameGroups groups groups := by
        refine (sameGroups_iff groups groups).mpr fun name group member => ?_
        have found := (Assoc.lookup_eq_some_iff_mem plainGroups.distinct name group).mpr member
        exact ⟨group, found, ih name group member⟩
      simp [same, Tree.values, Tree.groups, sameValues_refl plainValues, groupsAlike]

end DocTags.Tree
