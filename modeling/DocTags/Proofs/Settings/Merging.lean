/-
# Merged extensions

The items of a layer are merged into others one after the other. What becomes of a text is decided
by the last item that stands for it, with or without an exclamation mark; a text that no item stands
for stays as it was.

A scan does not tell the spellings of an extension apart: dots in front and the case of letters do
not count. Merging does, so that an item with a mark takes away its own spelling of an extension and
leaves the other ones.
-/

import DocTags.Scan.Report
import DocTags.Settings.Layer

namespace DocTags

namespace ScanSettings

variable {base overlay items : List Text} {item text : Text}

/-- The text that an item stands for: what is behind its exclamation mark, if it has one. -/
def bare : Text → Text
  | '!' :: removed => removed
  | item => item

/-- Whether an item takes away what it stands for. -/
def isRemoval (item : Text) : Bool :=
  item.head? == some '!'

/-- An item takes away what it stands for, or adds it. -/
theorem mergeItem_eq (items : List Text) (item : Text) :
    mergeItem items item =
      if isRemoval item then items.filter (· ≠ bare item) else items.insert (bare item) := by
  cases item with
  | nil => rfl
  | cons c rest =>
      by_cases mark : c = '!'
      · rw [mark]
        rfl
      · simp [mergeItem, isRemoval, bare, mark]

/-! ## The last item of a class -/

/-- The last item of a class is an item and belongs to it. -/
theorem mem_of_findRev? {p : Text → Bool} (found : overlay.findRev? p = some item) :
    item ∈ overlay ∧ p item = true := by
  rw [List.findRev?_eq_find?_reverse] at found
  exact ⟨List.mem_reverse.mp (List.mem_of_find?_eq_some found), List.find?_some found⟩

/-- The last item of a class is the last one of each narrower class that it belongs to. -/
theorem findRev?_of_imp {p q : Text → Bool} (found : overlay.findRev? p = some item)
    (narrower : ∀ other, q other = true → p other = true) (member : q item = true) :
    overlay.findRev? q = some item := by
  rw [List.findRev?_eq_find?_reverse, List.find?_eq_some_iff_append] at found ⊢
  obtain ⟨-, later, earlier, whole, outside⟩ := found
  refine ⟨member, later, earlier, whole, fun other inLater => ?_⟩
  have notWider := outside other inLater
  rw [Bool.not_eq_true', ← Bool.not_eq_true] at notWider ⊢
  exact mt (narrower other) notWider

/-! ## What becomes of a text -/

/-- The last item that stands for a text. -/
def lastMention? (overlay : List Text) (text : Text) : Option Text :=
  overlay.findRev? fun item => bare item == text

/-- A text is kept if the last item that stands for it has no mark, or if no item stands for it and
it was there. -/
def Kept (base overlay : List Text) (text : Text) : Prop :=
  (lastMention? overlay text).elim (text ∈ base) (isRemoval · = false)

/-- One item decides about the text that it stands for, and about no other one. -/
theorem mem_mergeItem :
    text ∈ mergeItem items item ↔
      if bare item = text then isRemoval item = false else text ∈ items := by
  rw [mergeItem_eq]
  by_cases same : bare item = text
  · cases isRemoval item <;> simp [same]
  · cases isRemoval item <;> simp [same, Ne.symm same]

/-- The same texts are kept when the first item has been merged before. -/
theorem kept_cons {first : Text} {rest : List Text} :
    Kept items (first :: rest) text ↔ Kept (mergeItem items first) rest text := by
  have found : lastMention? (first :: rest) text =
      (lastMention? rest text).or (if bare first = text then some first else none) := by
    rw [lastMention?, lastMention?, List.findRev?]
    cases rest.findRev? fun item => bare item == text <;> simp
  rw [Kept, Kept, found]
  cases lastMention? rest text with
  | some later => rfl
  | none =>
      rw [Option.none_or, Option.elim_none, mem_mergeItem]
      split <;> rfl

/-- After all items of a layer just the texts that are kept are there. -/
theorem mem_foldl_mergeItem :
    text ∈ overlay.foldl mergeItem items ↔ Kept items overlay text := by
  induction overlay generalizing items with
  | nil => rfl
  | cons first rest ih => rw [List.foldl_cons, ih, kept_cons]

/-- Items without their repetitions are the same items. -/
theorem mem_foldr_insert : text ∈ base.foldr List.insert [] ↔ text ∈ base := by
  induction base with
  | nil => rfl
  | cons first rest ih => rw [List.foldr_cons, List.mem_insert_iff, ih, List.mem_cons]

/-- The merged items are the texts that are kept. -/
theorem mem_mergeItems : text ∈ mergeItems base overlay ↔ Kept base overlay text := by
  rw [mergeItems, List.mem_mergeSort, mem_foldl_mergeItem]
  simp only [Kept, mem_foldr_insert]

/-- What is kept was there or is what an item stands for. -/
theorem Kept.mem (kept : Kept base overlay text) : text ∈ base ++ overlay.map bare := by
  rw [List.mem_append, List.mem_map]
  rw [Kept] at kept
  cases found : lastMention? overlay text with
  | none =>
      rw [found] at kept
      exact Or.inl kept
  | some item =>
      obtain ⟨member, stands⟩ := mem_of_findRev? found
      exact Or.inr ⟨item, member, beq_iff_eq.mp stands⟩

end ScanSettings

/-! ## Spellings of an extension -/

/-- Whether a wanted extension is a spelling of an extension: dots in front and the case of letters
do not count. -/
def Path.spells (want extension : Text) : Bool :=
  Text.equalIgnoringCase (want.dropWhile (· == '.')) extension

/-- A path is selected by the spellings of its extension. -/
theorem Path.hasExtension_iff {wanted : List Text} {path : Path} {extension : Text}
    (named : path.extension? = some extension) :
    path.hasExtension wanted = true ↔ ∃ want ∈ wanted, spells want extension = true := by
  rw [hasExtension, named]
  exact List.any_eq_true

namespace ScanSettings

variable {base overlay : List Text} {extension spelling : Text} {path : Path}

/-- The last item that names an extension, in any spelling, with or without a mark. -/
def lastNaming? (overlay : List Text) (extension : Text) : Option Text :=
  overlay.findRev? fun item => Path.spells (bare item) extension

/-- The spelling that the last item naming an extension takes away is not kept. -/
theorem not_kept_of_removal (removal : lastNaming? overlay extension = some ('!' :: spelling)) :
    ¬ Kept base overlay spelling := by
  have names : Path.spells spelling extension = true := (mem_of_findRev? removal).2
  have last : lastMention? overlay spelling = some ('!' :: spelling) := by
    refine findRev?_of_imp removal (fun other stands => ?_) (beq_iff_eq.mpr rfl)
    rw [beq_iff_eq.mp stands]
    exact names
  rw [Kept, last]
  exact Bool.noConfusion

/-- **Removed extensions.** Where the last item that names an extension takes a spelling of it away,
the files with that extension are selected exactly if another spelling is kept; so none of them is
where the extension is spelled in this one way only. -/
theorem hasExtension_of_removal (removal : lastNaming? overlay extension = some ('!' :: spelling))
    (named : path.extension? = some extension) :
    (path.hasExtension (mergeItems base overlay) = true ↔
        ∃ other, other ≠ spelling ∧ Path.spells other extension = true ∧
          Kept base overlay other) ∧
      ((∀ item ∈ base ++ overlay.map bare, Path.spells item extension = true → item = spelling) →
        path.hasExtension (mergeItems base overlay) = false) := by
  have selected : path.hasExtension (mergeItems base overlay) = true ↔
      ∃ other, other ≠ spelling ∧ Path.spells other extension = true ∧
        Kept base overlay other := by
    simp only [Path.hasExtension_iff named, mem_mergeItems]
    refine ⟨fun ⟨other, kept, names⟩ => ⟨other, ?_, names, kept⟩,
      fun ⟨other, _, names, kept⟩ => ⟨other, kept, names⟩⟩
    rintro rfl
    exact not_kept_of_removal removal kept
  refine ⟨selected, fun alike => Bool.eq_false_iff.mpr fun found => ?_⟩
  obtain ⟨other, different, names, kept⟩ := selected.mp found
  exact different (alike other kept.mem names)

/-- An extension that is added and taken away again in one spelling is not selected, also where a
path has it in capital letters. -/
theorem hasExtension_of_removal_of_capitals :
    let overlay : List Text := ["php".toList, "!inc".toList, "!php".toList]
    lastNaming? overlay "PHP".toList = some ('!' :: "php".toList) ∧
      (⟨"src/a.PHP".toList⟩ : Path).extension? = some "PHP".toList ∧
      Path.hasExtension (mergeItems ["inc".toList, "php".toList] overlay) ⟨"src/a.PHP".toList⟩ =
        false := by
  intro overlay
  have removal : lastNaming? overlay "PHP".toList = some ('!' :: "php".toList) := by decide
  have named : (⟨"src/a.PHP".toList⟩ : Path).extension? = some "PHP".toList := by decide
  exact ⟨removal, named, (hasExtension_of_removal removal named).2 (by decide)⟩

/-- An extension that was given with a dot in front is still selected after an item that takes it
away without the dot. -/
theorem hasExtension_of_other_spelling :
    lastNaming? ["!php".toList] "php".toList = some ('!' :: "php".toList) ∧
      (⟨"src/a.php".toList⟩ : Path).extension? = some "php".toList ∧
      Path.hasExtension (mergeItems [".php".toList] ["!php".toList]) ⟨"src/a.php".toList⟩ =
        true := by
  have named : (⟨"src/a.php".toList⟩ : Path).extension? = some "php".toList := by decide
  have unmentioned : lastMention? ["!php".toList] ".php".toList = none := by decide
  have kept : Kept [".php".toList] ["!php".toList] ".php".toList := by
    rw [Kept, unmentioned]
    exact List.mem_singleton_self _
  exact ⟨by decide, named,
    (Path.hasExtension_iff named).mpr ⟨".php".toList, mem_mergeItems.mpr kept, by decide⟩⟩

end ScanSettings

end DocTags
