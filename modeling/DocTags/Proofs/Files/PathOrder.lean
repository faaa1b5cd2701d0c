/-
# The order of paths

Paths are ordered linearly by their components. Two paths that come before each other have the same
components, though they may be written in different ways, so that paths that are pairwise different
can be put into one ascending order only. Among paths that are the same, sorting keeps the order in
which they came, so that leaving paths out before or after they are sorted makes no difference.
-/

import DocTags.Files.Path
import DocTags.Proofs.Order
import DocTags.Proofs.Text.Pieces
import Mathlib.Data.List.Pairwise
import Mathlib.Data.List.Perm.Basic

namespace DocTags

theorem Component.rank_injective : Function.Injective Component.rank := by
  intro first second same
  cases first <;> cases second <;> simp [rank] at same
  case name.name text other =>
    rw [List.map_injective_iff.mpr (fun _ _ => Char.toNat_inj.mp) same]
  all_goals rfl

namespace Path

theorem isLinear_rank :
    IsLinear (lexicographicLe (lexicographicLe Nat.ble)) :=
  isLinear_natBle.lexicographic.lexicographic

theorem le_total (path other : Path) : (path.le other || other.le path) = true :=
  isLinear_rank.total _ _

theorem le_trans (first second third : Path) (lower : first.le second = true)
    (upper : second.le third = true) : first.le third = true :=
  isLinear_rank.trans _ _ _ lower upper

/-- Paths that come before each other are the same. -/
theorem same_of_le_of_le {path other : Path} (first : path.le other = true)
    (second : other.le path = true) : path.same other = true := by
  have ranks : path.rank = other.rank := isLinear_rank.antisymm _ _ first second
  have components := List.map_injective_iff.mpr Component.rank_injective ranks
  rw [same, components]
  exact beq_self_eq_true other.components

theorem same_comm (path other : Path) : path.same other = other.same path := by
  rw [same, same]
  exact BEq.comm

/-- Paths can be filtered before or after they are sorted, since sorting keeps the order of paths
that come before each other: where a path is put among others, those before it do not come behind
it, and all others do. -/
theorem mergeSort_filter (p : Path → Bool) (paths : List Path) :
    (paths.filter p).mergeSort Path.le = (paths.mergeSort Path.le).filter p := by
  have behind {path : Path} {paths front back : List Path}
      (sorted : (path :: paths).mergeSort Path.le = front ++ path :: back) :
      ∀ other ∈ back, path.le other = true := by
    have ascending := List.pairwise_mergeSort le_trans le_total (path :: paths)
    rw [sorted, List.pairwise_append, List.pairwise_cons] at ascending
    exact ascending.2.1.1
  induction paths with
  | nil => simp
  | cons path paths ih =>
      obtain ⟨front, back, sorted, rest, less⟩ := List.mergeSort_cons le_trans le_total path paths
      rw [rest, List.filter_append] at ih
      rw [sorted, List.filter_append]
      cases kept : p path with
      | false =>
          have dropped : ¬ p path = true := by simp [kept]
          rw [List.filter_cons_of_neg dropped, List.filter_cons_of_neg dropped, ih]
      | true =>
          obtain ⟨before, after, filtered, same, lessBefore⟩ :=
            List.mergeSort_cons le_trans le_total path (paths.filter p)
          rw [List.filter_cons_of_pos kept, List.filter_cons_of_pos kept, filtered]
          obtain ⟨rfl, rfl⟩ := Text.append_inj_of_boundary (p := fun other => !path.le other)
            (fun other member => less other (List.mem_filter.mp member).1)
            (fun other head => by
              have member := (List.mem_filter.mp (List.mem_of_mem_head? head)).1
              simp [behind sorted other member])
            lessBefore
            (fun other head => by simp [behind filtered other (List.mem_of_mem_head? head)])
            (ih.symm.trans same)
          rfl

instance : Std.Symm fun path other : Path => path.same other = false :=
  ⟨fun path other unlike => (same_comm other path).trans unlike⟩

/-- No two of some paths are the same. -/
def Distinct (paths : List Path) : Prop :=
  paths.Pairwise fun path other => path.same other = false

instance (paths : List Path) : Decidable (Distinct paths) :=
  inferInstanceAs (Decidable (paths.Pairwise _))

/-- A path comes before another one in the order of paths and is not the same. -/
def Before (path other : Path) : Prop :=
  path.le other = true ∧ path.same other = false

theorem Distinct.perm {paths others : List Path} (distinct : Distinct paths)
    (permuted : paths.Perm others) : Distinct others :=
  (permuted.pairwise_iff fun {path other} unlike => (same_comm other path).trans unlike).mp distinct

theorem Distinct.filter {paths : List Path} (distinct : Distinct paths) (p : Path → Bool) :
    Distinct (paths.filter p) :=
  List.Pairwise.filter p distinct

/-- Distinct paths are the same only if they are one path. -/
theorem Distinct.eq_of_same {paths : List Path} (distinct : Distinct paths) {path other : Path}
    (member : path ∈ paths) (otherMember : other ∈ paths) (alike : path.same other = true) :
    path = other := by
  by_contra unequal
  have unlike : path.same other = false :=
    List.Pairwise.forall (l := paths) distinct member otherMember unequal
  rw [alike] at unlike
  exact Bool.noConfusion unlike

/-- Distinct paths are sorted into an ascending order. -/
theorem Distinct.pairwise_before_mergeSort {paths : List Path} (distinct : Distinct paths) :
    (paths.mergeSort Path.le).Pairwise Before :=
  (List.pairwise_mergeSort le_trans le_total paths).and
    (distinct.perm (List.mergeSort_perm paths Path.le).symm)

/-- Distinct paths are sorted into the same order, however they are listed. -/
theorem Distinct.mergeSort_eq_of_perm {paths others : List Path} (distinct : Distinct paths)
    (permuted : paths.Perm others) : paths.mergeSort Path.le = others.mergeSort Path.le := by
  have toPaths := List.mergeSort_perm paths Path.le
  have toOthers := List.mergeSort_perm others Path.le
  refine List.Perm.eq_of_pairwise ?_ (List.pairwise_mergeSort le_trans le_total paths)
    (List.pairwise_mergeSort le_trans le_total others)
    (toPaths.trans (permuted.trans toOthers.symm))
  intro path other member otherMember first second
  exact distinct.eq_of_same (toPaths.mem_iff.mp member)
    (permuted.mem_iff.mpr (toOthers.mem_iff.mp otherMember)) (same_of_le_of_le first second)

end Path

end DocTags
