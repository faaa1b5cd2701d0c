/-
# Merging as a union

What a merge of extensions gives is decided by the texts that it keeps: it is the ascending list of
them, without repetitions, and there is one such list only. So a law of merging is a law of what is
kept. Which texts those are the last item that mentions each of them says, and where none does, what
was there before.
-/

import DocTags.Proofs.Settings.Merging
import DocTags.Proofs.Text.ByteOrder
import Mathlib.Data.List.Nodup

namespace DocTags.ScanSettings

variable {base other overlay more items : List Text} {text item : Text}

/-! ## The ascending list of what is kept -/

/-- An item is added once and taken away whole. -/
theorem nodup_mergeItem (distinct : items.Nodup) (item : Text) : (mergeItem items item).Nodup := by
  rw [mergeItem_eq]
  split
  · exact distinct.filter _
  · exact distinct.insert

/-- Merging leaves no repetition. -/
theorem nodup_mergeItems (base overlay : List Text) : (mergeItems base overlay).Nodup := by
  have start : (base.foldr List.insert []).Nodup :=
    List.foldrRecOn base _ List.nodup_nil fun _ distinct _ _ => distinct.insert
  have run : (overlay.foldl mergeItem (base.foldr List.insert [])).Nodup :=
    List.foldlRecOn overlay _ start fun _ distinct item _ => nodup_mergeItem distinct item
  exact (List.mergeSort_perm _ _).nodup_iff.mpr run

/-- Merged items are ascending. -/
theorem pairwise_le_mergeItems (base overlay : List Text) :
    (mergeItems base overlay).Pairwise fun first second => Text.le first second = true :=
  List.pairwise_mergeSort Text.isLinear_le.trans Text.isLinear_le.total _

/-- Merges that keep the same texts are the same. -/
theorem mergeItems_eq_of_kept (same : ∀ text, Kept base overlay text ↔ Kept other more text) :
    mergeItems base overlay = mergeItems other more := by
  have members : ∀ text, text ∈ mergeItems base overlay ↔ text ∈ mergeItems other more := by
    intro text
    rw [mem_mergeItems, mem_mergeItems, same]
  apply List.Perm.eq_of_pairwise _ (pairwise_le_mergeItems base overlay)
    (pairwise_le_mergeItems other more)
  · exact (List.perm_ext_iff_of_nodup (nodup_mergeItems base overlay)
      (nodup_mergeItems other more)).mpr members
  · intro first second _ _
    exact Text.isLinear_le.antisymm first second

/-! ## What is kept -/

/-- What is kept depends on the texts that were there, not on their order. -/
theorem kept_congr (same : text ∈ base ↔ text ∈ other) :
    Kept base overlay text ↔ Kept other overlay text := by
  rw [Kept, Kept]
  cases lastMention? overlay text with
  | none => exact same
  | some item => rfl

/-- What one layer keeps is what the next one finds. -/
theorem kept_append :
    Kept base (overlay ++ more) text ↔ Kept (mergeItems base overlay) more text := by
  have between : text ∈ overlay.foldl mergeItem base ↔ text ∈ mergeItems base overlay := by
    rw [mem_foldl_mergeItem, mem_mergeItems]
  rw [← mem_foldl_mergeItem, List.foldl_append, mem_foldl_mergeItem, kept_congr between]

/-- A layer keeps what it has kept. -/
theorem kept_again : Kept (mergeItems base overlay) overlay text ↔ Kept base overlay text := by
  cases found : lastMention? overlay text with
  | none =>
      rw [Kept, found, Option.elim_none, mem_mergeItems]
  | some item =>
      rw [Kept, Kept, found]
      rfl

/-! ## Mentions -/

/-- Whether an item is a text that has no mark in front, or has a mark in front of the text. -/
def Mentions (text item : Text) : Prop :=
  item = text ∧ text.head? ≠ some '!' ∨ item = '!' :: text

instance (text item : Text) : Decidable (Mentions text item) :=
  inferInstanceAs (Decidable (_ ∨ _))

/-- The items that stand for a text are those that mention it. -/
theorem bare_eq_iff : bare item = text ↔ Mentions text item := by
  cases item with
  | nil =>
      have unmarked : [] = text → text.head? ≠ some '!' := by
        rintro rfl
        exact Option.some_ne_none _ ∘ Eq.symm
      simpa [bare, Mentions] using unmarked
  | cons c rest =>
      by_cases mark : c = '!'
      · subst mark
        have marked : '!' :: rest = text → ¬text.head? = some '!' → rest = text := by
          rintro rfl unmarked
          exact absurd rfl unmarked
        simpa [bare, Mentions] using marked
      · have unmarked : c :: rest = text → text.head? ≠ some '!' := by
          rintro rfl
          simpa using mark
        simpa [bare, Mentions, mark] using unmarked

/-- An item that mentions a text takes it away, unless it is the text. -/
theorem Mentions.isRemoval_eq_false_iff (mention : Mentions text item) :
    isRemoval item = false ↔ item = text := by
  rcases mention with ⟨rfl, unmarked⟩ | rfl
  · simpa [isRemoval] using unmarked
  · simp [isRemoval]

/-- A text is kept if it is its own last mention, or if nothing mentions it and it was there. -/
theorem kept_iff :
    Kept base overlay text ↔
      overlay.findRev? (Mentions text ·) = some text ∨
        overlay.findRev? (Mentions text ·) = none ∧ text ∈ base := by
  have mentions : lastMention? overlay text = overlay.findRev? (Mentions text ·) := by
    rw [lastMention?]
    congr 1
    funext item
    exact Bool.eq_iff_iff.mpr (by rw [beq_iff_eq, decide_eq_true_eq, bare_eq_iff])
  rw [Kept, ← mentions]
  cases found : lastMention? overlay text with
  | none => simp
  | some item =>
      rw [mentions] at found
      have mention : Mentions text item := of_decide_eq_true (mem_of_findRev? found).2
      simpa using mention.isRemoval_eq_false_iff

/-- **Merging.** The merged items are in strictly ascending order of their bytes, and a text is one
of them just if the last item that mentions it is the text itself, or if no item does and it was
there before. So the order of the items that were there and their repetitions do not matter, two
layers are merged one after the other as one layer of both, and a layer that is merged once more
changes nothing. -/
theorem mem_mergeItems_iff_lastMention (base overlay : List Text) :
    (mergeItems base overlay).Pairwise (fun first second => Text.bytes first < Text.bytes second) ∧
      (∀ text, text ∈ mergeItems base overlay ↔
        overlay.findRev? (Mentions text ·) = some text ∨
          overlay.findRev? (Mentions text ·) = none ∧ text ∈ base) ∧
      (∀ other, (∀ text, text ∈ other ↔ text ∈ base) →
        mergeItems other overlay = mergeItems base overlay) ∧
      (∀ more, mergeItems (mergeItems base overlay) more = mergeItems base (overlay ++ more)) ∧
      mergeItems (mergeItems base overlay) overlay = mergeItems base overlay := by
  refine ⟨?_, fun text => ?_, fun other same => ?_, fun more => ?_, ?_⟩
  · apply ((pairwise_le_mergeItems base overlay).and (nodup_mergeItems base overlay)).imp
    intro first second ⟨lower, differs⟩
    exact Text.bytes_lt_of_le lower differs
  · rw [mem_mergeItems, kept_iff]
  · exact mergeItems_eq_of_kept fun text => kept_congr (same text)
  · exact mergeItems_eq_of_kept fun text => kept_append.symm
  · exact mergeItems_eq_of_kept fun text => kept_again

/-- A mark in front of a text that has one, an item that comes back, and one that is taken away
twice. -/
theorem mem_mergeItems_iff_lastMention_of_marks :
    let base := ["b".toList, "!x".toList, "a".toList, "b".toList]
    let other := ["a".toList, "b".toList, "!x".toList]
    let overlay := ["!a".toList, "c".toList, "!!x".toList, "a".toList, "!c".toList, "!x".toList]
    (∀ text, text ∈ other ↔ text ∈ base) ∧ mergeItems other overlay = mergeItems base overlay ∧
      "a".toList ∈ mergeItems base overlay ∧ "b".toList ∈ mergeItems base overlay ∧
      "!x".toList ∉ mergeItems base overlay ∧ "c".toList ∉ mergeItems base overlay := by
  intro base other overlay
  have same : ∀ text, text ∈ other ↔ text ∈ base := by
    intro text
    simp only [base, other, List.mem_cons, List.not_mem_nil]
    tauto
  obtain ⟨-, members, orders, -⟩ := mem_mergeItems_iff_lastMention base overlay
  exact ⟨same, orders other same, (members _).mpr (by decide), (members _).mpr (by decide),
    mt (members _).mp (by decide), mt (members _).mp (by decide)⟩

end DocTags.ScanSettings
