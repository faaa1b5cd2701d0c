/-
# The comment at the start of a text

A text starts with at most one comment. It is the shortest one if the text starts with that;
otherwise it opens, and is closed by the first closing delimiter that stands wholly behind the
opening one. A text that opens without starting with a comment is one that nothing closes.
-/

import DocTags.Comment.Block
import DocTags.Proofs.Comment.Envelope
import DocTags.Proofs.Text.Occurrence

namespace DocTags.Comment

open Text

/-! ## The first closing delimiter -/

/-- From a start on, the closing delimiter stands in a text for the first time at its end. -/
def ClosesAtEnd (text : Text) (start : Nat) : Prop :=
  ∃ place, FirstAt closing text start place ∧ place + closing.length = text.length

theorem closesAtEnd_iff {text : Text} {start : Nat} :
    ClosesAtEnd text start ↔ closing.length ≤ text.length ∧
      FirstAt closing text start (text.length - closing.length) := by
  refine ⟨fun ⟨place, first, atEnd⟩ => ?_, fun ⟨long, first⟩ => ⟨_, first, Nat.sub_add_cancel long⟩⟩
  have same : text.length - closing.length = place := by omega
  exact ⟨by omega, same ▸ first⟩

instance (text : Text) (start : Nat) : Decidable (ClosesAtEnd text start) :=
  decidable_of_iff' _ closesAtEnd_iff

theorem throughClosing_cons {c : Char} {rest : Text} (later : ¬ closing <+: c :: rest) :
    throughClosing (c :: rest) =
      (throughClosing rest).map fun (before, after) => (c :: before, after) := by
  rw [throughClosing]
  intro after star slash
  subst star slash
  exact later ⟨after, rfl⟩

private theorem closesAtEnd_cons {c : Char} {text : Text} (later : ¬ closing <+: c :: text) :
    ClosesAtEnd (c :: text) 0 ↔ ClosesAtEnd text 0 := by
  refine ⟨fun closes => ?_, fun closes => ?_⟩
  · obtain ⟨place, first, atEnd⟩ := closes
    cases place with
    | zero => exact absurd first.occurs later
    | succ place =>
        refine ⟨place, (firstAt_cons_succ later).mp first, ?_⟩
        rw [List.length_cons] at atEnd
        omega
  · obtain ⟨place, first, atEnd⟩ := closes
    refine ⟨place + 1, (firstAt_cons_succ later).mpr first, ?_⟩
    rw [List.length_cons]
    omega

private theorem ClosesAtEnd.suffix {text : Text} {start : Nat} (closes : ClosesAtEnd text start) :
    closing <:+ text := by
  obtain ⟨place, first, atEnd⟩ := closes
  exact first.occurs.suffix atEnd

private theorem closesAtEnd_closing : ClosesAtEnd closing 0 :=
  ⟨0, firstAt_self (List.prefix_refl closing), rfl⟩

/-- What is read through the first closing delimiter has it only at its end. -/
theorem closesAtEnd_of_throughClosing {text before after : Text}
    (found : throughClosing text = some (before, after)) : ClosesAtEnd before 0 := by
  induction text generalizing before with
  | nil => simp [throughClosing] at found
  | cons c rest ih =>
      by_cases here : closing <+: c :: rest
      · obtain ⟨later, whole⟩ := here
        rw [← whole] at found
        obtain ⟨rfl, -⟩ := Prod.mk.inj (Option.some.inj found)
        exact closesAtEnd_closing
      · rw [throughClosing_cons here] at found
        obtain ⟨⟨first, last⟩, inner, same⟩ := Option.map_eq_some_iff.mp found
        obtain ⟨rfl, rfl⟩ := Prod.mk.inj same
        have begins : c :: first <+: c :: rest :=
          ⟨last, by rw [List.cons_append, append_of_throughClosing inner]⟩
        exact (closesAtEnd_cons fun early => here (early.trans begins)).mpr (ih inner)

/-- A text that has the closing delimiter only at its end is read through, whatever follows. On the
way there this delimiter is still to come, so that none can reach into what follows. -/
theorem throughClosing_append {before : Text} (closes : ClosesAtEnd before 0) (after : Text) :
    throughClosing (before ++ after) = some (before, after) := by
  induction before with
  | nil =>
      obtain ⟨place, -, atEnd⟩ := closes
      simp [closing] at atEnd
  | cons c rest ih =>
      by_cases here : closing <+: c :: rest
      · obtain ⟨place, first, atEnd⟩ := closes
        obtain rfl := first.unique (firstAt_self here)
        have same := here.eq_of_length (by simpa using atEnd)
        rw [← same]
        rfl
      · have closesRest := (closesAtEnd_cons here).mp closes
        have later : ¬ closing <+: c :: (rest ++ after) := by
          obtain ⟨place, -, atEnd⟩ := closesRest
          have room : closing.length ≤ (c :: rest).length := by
            rw [List.length_cons]
            omega
          exact fun early => here
            (List.prefix_of_prefix_length_le early (List.prefix_append (c :: rest) after) room)
        rw [List.cons_append, throughClosing_cons later, ih closesRest]
        rfl

/-- Nothing is read through when there is no closing delimiter. -/
theorem throughClosing_eq_none_iff (text : Text) :
    throughClosing text = none ↔ ∀ place, ¬ OccursAt closing text place := by
  induction text with
  | nil => simp [throughClosing, OccursAt, closing]
  | cons c rest ih =>
      by_cases here : closing <+: c :: rest
      · obtain ⟨after, whole⟩ := here
        rw [← whole]
        have found : throughClosing (closing ++ after) = some (closing, after) := rfl
        simp only [found, reduceCtorEq, false_iff]
        intro never
        exact never 0 (List.prefix_append closing after)
      · rw [throughClosing_cons here, Option.map_eq_none_iff, ih]
        refine ⟨fun never place => ?_, fun never place => never (place + 1)⟩
        cases place with
        | zero => exact here
        | succ place => exact never place

/-! ## The comment at the start of a text -/

/-- A comment is the shortest one, or it opens, is not begun by the shortest one, and is closed
behind its opening delimiter only at its end. -/
def IsBlock (text : Text) : Prop :=
  text = shortest ∨
    ¬ shortest <+: text ∧ opening <+: text ∧ closing <:+ text ∧ ClosesAtEnd text opening.length

instance (text : Text) : Decidable (IsBlock text) :=
  inferInstanceAs (Decidable (text = shortest ∨
    ¬ shortest <+: text ∧ opening <+: text ∧ closing <:+ text ∧ ClosesAtEnd text opening.length))

theorem IsBlock.opens {block : Text} (isBlock : IsBlock block) : opening <+: block := by
  rcases isBlock with rfl | ⟨-, opens, -⟩
  · exact ⟨['/'], rfl⟩
  · exact opens

/-- A closing delimiter stands in every comment, though not before its third character. -/
theorem IsBlock.exists_closing {block : Text} (isBlock : IsBlock block) :
    ∃ place, 2 ≤ place ∧ OccursAt closing block place := by
  rcases isBlock with rfl | ⟨-, -, -, place, first, -⟩
  · exact ⟨2, Nat.le_refl 2, by decide⟩
  · refine ⟨place, ?_, first.occurs⟩
    have least : 3 ≤ place := first.start_le
    omega

theorem blockAt_opening {rest : Text} (long : ¬ shortest <+: opening ++ rest) :
    blockAt (opening ++ rest) =
      (throughClosing rest).map fun (before, after) => (opening ++ before, after) := by
  rw [opening, List.cons_append, List.cons_append, List.cons_append, List.nil_append, blockAt]
  · rfl
  · intro after slash
    subst slash
    exact long ⟨after, rfl⟩

theorem blockAt_of_not_opening {text : Text} (closed : ¬ opening <+: text) :
    blockAt text = none := by
  cases found : blockAt text with
  | none => rfl
  | some pair =>
      have begins : pair.1 <+: text := ⟨pair.2, append_of_blockAt found⟩
      exact absurd ((starts_with_opening_of_blockAt found).trans begins) closed

private theorem shortest_prefix_iff {rest : Text} (room : closing.length ≤ rest.length)
    (after : Text) :
    shortest <+: opening ++ rest ++ after ↔ shortest <+: opening ++ rest := by
  refine ⟨fun early => ?_, fun early => early.trans (List.prefix_append _ _)⟩
  apply List.prefix_of_prefix_length_le early (List.prefix_append _ _)
  simp only [shortest, opening, closing, List.length_append, List.length_cons, List.length_nil]
    at room ⊢
  omega

private theorem closesAtEnd_opening (inner : Text) :
    ClosesAtEnd (opening ++ inner) opening.length ↔ ClosesAtEnd inner 0 := by
  refine ⟨fun closes => ?_, fun closes => ?_⟩
  · obtain ⟨place, first, atEnd⟩ := closes
    obtain ⟨inside, rfl⟩ := Nat.exists_eq_add_of_le first.start_le
    refine ⟨inside, (firstAt_append_left opening).mp first, ?_⟩
    rw [List.length_append] at atEnd
    omega
  · obtain ⟨place, first, atEnd⟩ := closes
    refine ⟨opening.length + place, (firstAt_append_left opening).mpr first, ?_⟩
    rw [List.length_append]
    omega

/-- What is found at the start of a text is a comment. -/
theorem isBlock_of_blockAt {text block after : Text}
    (found : blockAt text = some (block, after)) : IsBlock block := by
  have begins : block <+: text := ⟨after, append_of_blockAt found⟩
  by_cases short : shortest <+: text
  · obtain ⟨rest, rfl⟩ := short
    have here : blockAt (shortest ++ rest) = some (shortest, rest) := rfl
    rw [here] at found
    exact Or.inl (Prod.mk.inj (Option.some.inj found)).1.symm
  · obtain ⟨rest, rfl⟩ := (starts_with_opening_of_blockAt found).trans begins
    rw [blockAt_opening short] at found
    obtain ⟨⟨before, last⟩, inner, same⟩ := Option.map_eq_some_iff.mp found
    obtain ⟨rfl, rfl⟩ := Prod.mk.inj same
    have closes := (closesAtEnd_opening before).mpr (closesAtEnd_of_throughClosing inner)
    exact Or.inr ⟨fun early => short (early.trans begins), List.prefix_append opening before,
      closes.suffix, closes⟩

/-- A comment is found at the start of a text that it begins, whatever follows. -/
theorem blockAt_append {block : Text} (isBlock : IsBlock block) (after : Text) :
    blockAt (block ++ after) = some (block, after) := by
  rcases isBlock with rfl | ⟨long, ⟨inner, rfl⟩, -, closes⟩
  · rfl
  · have closesInner := (closesAtEnd_opening inner).mp closes
    have room : closing.length ≤ inner.length := by
      obtain ⟨place, -, atEnd⟩ := closesInner
      omega
    have longer := mt (shortest_prefix_iff room after).mp long
    rw [List.append_assoc] at longer ⊢
    rw [blockAt_opening longer, throughClosing_append closesInner]
    rfl

/-- A text has a comment at its start when it starts with that comment. -/
theorem blockAt_eq_some_iff {text block after : Text} :
    blockAt text = some (block, after) ↔ text = block ++ after ∧ IsBlock block :=
  ⟨fun found => ⟨(append_of_blockAt found).symm, isBlock_of_blockAt found⟩,
    fun ⟨whole, isBlock⟩ => whole ▸ blockAt_append isBlock after⟩

/-- A text that opens has no comment at its start when nothing closes it. -/
theorem blockAt_eq_none_iff {text : Text} (opens : opening <+: text) :
    blockAt text = none ↔
      ¬ shortest <+: text ∧ ∀ place, opening.length ≤ place → ¬ OccursAt closing text place := by
  by_cases short : shortest <+: text
  · obtain ⟨rest, rfl⟩ := short
    have here : blockAt (shortest ++ rest) = some (shortest, rest) := rfl
    simp [here]
  · obtain ⟨rest, rfl⟩ := opens
    rw [blockAt_opening short, Option.map_eq_none_iff, throughClosing_eq_none_iff]
    refine ⟨fun never => ⟨short, ?_⟩, fun never place occurs => ?_⟩
    · intro place least occurs
      obtain ⟨inside, rfl⟩ := Nat.exists_eq_add_of_le least
      exact never inside ((occursAt_append_left opening).mp occurs)
    · apply never.2 (opening.length + place) (Nat.le_add_right _ _)
      exact (occursAt_append_left opening).mpr occurs

/-! ## One step of the search -/

/-- A comment that stands at the start of a text is the first one that is found. -/
theorem blocksFrom_of_blockAt {source block after : Text} (line : Nat)
    (found : blockAt source = some (block, after)) :
    blocksFrom line source = ⟨line, block⟩ :: blocksFrom (line + newlines block) after := by
  cases source with
  | nil => cases found
  | cons c rest =>
      rw [blocksFrom]
      split
      · next same =>
          obtain ⟨rfl, rfl⟩ := Prod.mk.inj (Option.some.inj (found.symm.trans same))
          rfl
      · next absent =>
          rw [found] at absent
          cases absent

/-- Nothing is found behind an opening delimiter that is not closed. -/
theorem blocksFrom_of_open {source : Text} (line : Nat) (opens : opening <+: source)
    (unclosed : blockAt source = none) : blocksFrom line source = [] := by
  cases source with
  | nil => exact absurd opens (by decide)
  | cons c rest =>
      rw [blocksFrom]
      split
      · next found =>
          rw [unclosed] at found
          cases found
      · rw [if_pos (List.isPrefixOf_iff_prefix.mpr opens)]

/-- A character at which nothing opens is passed over. -/
theorem blocksFrom_cons {c : Char} {rest : Text} (line : Nat) (later : ¬ opening <+: c :: rest) :
    blocksFrom line (c :: rest) = blocksFrom (line + newlines [c]) rest := by
  rw [blocksFrom]
  split
  · next found =>
      rw [blockAt_of_not_opening later] at found
      cases found
  · rw [if_neg (mt List.isPrefixOf_iff_prefix.mp later)]

end DocTags.Comment
