/-
# Places in a text

Where a mark stands in a text, counted in characters from zero, and the first such place from a
given start on. A place keeps its meaning when text is put behind it, and moves by the length of
what is put before it.
-/

import DocTags.Text.Basic
import Mathlib.Data.List.Basic

namespace DocTags.Text

/-- A text that does not start with a mark is not freed of it. -/
theorem isPrefixOf?_eq_none {mark text : Text} (absent : ¬ mark <+: text) :
    mark.isPrefixOf? text = none := by
  rw [← Option.not_isSome_iff_eq_none, List.isSome_isPrefixOf?_eq_isPrefixOf]
  simpa using absent

/-- A mark stands in a text at a place. -/
def OccursAt (mark text : Text) (place : Nat) : Prop :=
  mark <+: text.drop place

instance (mark text : Text) (place : Nat) : Decidable (OccursAt mark text place) :=
  inferInstanceAs (Decidable (mark <+: text.drop place))

/-- From a start on, a mark stands in a text for the first time at a place. -/
structure FirstAt (mark text : Text) (start place : Nat) : Prop where
  start_le : start ≤ place
  occurs : OccursAt mark text place
  not_before : ∀ earlier, start ≤ earlier → earlier < place → ¬ OccursAt mark text earlier

variable {mark text : Text} {c : Char} {place start : Nat}

/-- A mark does not reach beyond a character that it does not hold. -/
theorem prefix_append_cons_iff (absent : c ∉ mark) (front after : Text) :
    mark <+: front ++ c :: after ↔ mark <+: front := by
  induction front generalizing mark with
  | nil =>
      cases mark with
      | nil => simp
      | cons m mark =>
          have differs : m ≠ c := fun same => absent (same ▸ List.mem_cons_self)
          simp [differs]
  | cons d front ih =>
      cases mark with
      | nil => simp
      | cons m mark =>
          rw [List.cons_append, List.cons_prefix_cons, List.cons_prefix_cons,
            ih fun member => absent (List.mem_cons_of_mem m member)]

/-- So where such a character stands, a mark stands before it or behind it. -/
theorem infix_append_cons_iff (absent : c ∉ mark) (front after : Text) :
    mark <:+: front ++ c :: after ↔ mark <:+: front ∨ mark <:+: after := by
  induction front with
  | nil =>
      have atStart := prefix_append_cons_iff absent [] after
      rw [List.nil_append] at atStart
      rw [List.nil_append, List.infix_cons_iff, atStart, List.prefix_nil, List.infix_nil]
  | cons d front ih =>
      have atStart := prefix_append_cons_iff absent (d :: front) after
      rw [List.cons_append] at atStart
      rw [List.cons_append, List.infix_cons_iff, atStart, ih, List.infix_cons_iff, or_assoc]

/-- A place in the rest of a text is a place in the text. -/
theorem occursAt_drop (start place : Nat) :
    OccursAt mark (text.drop start) place ↔ OccursAt mark text (start + place) := by
  rw [OccursAt, OccursAt, List.drop_drop]

/-- Text put before a place moves it. -/
theorem occursAt_append_left (before : Text) :
    OccursAt mark (before ++ text) (before.length + place) ↔ OccursAt mark text place := by
  rw [OccursAt, OccursAt, List.drop_length_add_append]

/-- Text put behind a place, as far as the mark reaches, does not matter. -/
theorem occursAt_append_right (after : Text) (room : place + mark.length ≤ text.length) :
    OccursAt mark (text ++ after) place ↔ OccursAt mark text place := by
  rw [OccursAt, OccursAt, List.drop_append_of_le_length (by omega)]
  refine ⟨fun occurs => ?_, fun occurs => occurs.trans (List.prefix_append _ _)⟩
  exact List.prefix_of_prefix_length_le occurs (List.prefix_append _ _)
    (by rw [List.length_drop]; omega)

/-- A mark at a place stands somewhere in the text. -/
theorem OccursAt.isInfix (occurs : OccursAt mark text place) : mark <:+: text :=
  List.IsInfix.trans (List.IsPrefix.isInfix occurs) (List.drop_suffix place text).isInfix

/-- A place and the mark that stands there fit into the text. -/
theorem OccursAt.room (occurs : OccursAt mark text place) (proper : mark ≠ []) :
    place + mark.length ≤ text.length := by
  have fits := occurs.length_le
  have long := List.length_pos_iff.mpr proper
  rw [List.length_drop] at fits
  omega

/-- A mark stands inside the text. -/
theorem OccursAt.lt_length (occurs : OccursAt mark text place) (proper : mark ≠ []) :
    place < text.length := by
  have room := occurs.room proper
  have long := List.length_pos_iff.mpr proper
  omega

/-- Only the places inside a text have to be looked at to find no mark. -/
theorem forall_not_occursAt_iff (proper : mark ≠ []) :
    (∀ place, ¬ OccursAt mark text place) ↔
      ∀ place < text.length, ¬ OccursAt mark text place :=
  ⟨fun never place _ => never place, fun inside place occurs =>
    inside place (occurs.lt_length proper) occurs⟩

/-- A mark that stands where a text has just as much left ends the text. -/
theorem OccursAt.suffix (occurs : OccursAt mark text place)
    (atEnd : place + mark.length = text.length) : mark <:+ text := by
  have same := occurs.eq_of_length (by rw [List.length_drop]; omega)
  rw [same]
  exact List.drop_suffix place text

/-- The first character of a mark stands at its place. -/
theorem OccursAt.getElem? (occurs : OccursAt (c :: mark) text place) : text[place]? = some c := by
  obtain ⟨after, whole⟩ := occurs
  rw [← List.head?_drop, ← whole]
  rfl

/-- There is one first place. -/
theorem FirstAt.unique {other : Nat} (first : FirstAt mark text start place)
    (second : FirstAt mark text start other) : place = other := by
  rcases Nat.lt_trichotomy place other with less | same | greater
  · exact absurd first.occurs (second.not_before place first.start_le less)
  · exact same
  · exact absurd second.occurs (first.not_before other second.start_le greater)

/-- A mark at the start stands there first. -/
theorem firstAt_self (occurs : OccursAt mark text start) : FirstAt mark text start start :=
  ⟨Nat.le_refl start, occurs, fun _ least less => absurd least (by omega)⟩

instance (mark text : Text) (start place : Nat) : Decidable (FirstAt mark text start place) :=
  decidable_of_iff (start ≤ place ∧ OccursAt mark text place ∧
      ∀ earlier < place, start ≤ earlier → ¬ OccursAt mark text earlier)
    ⟨fun ⟨least, occurs, before⟩ => ⟨least, occurs, fun earlier least less =>
      before earlier less least⟩,
    fun first => ⟨first.start_le, first.occurs, fun earlier less least =>
      first.not_before earlier least less⟩⟩

/-- Text put before the start moves the first place. -/
theorem firstAt_append_left (before : Text) :
    FirstAt mark (before ++ text) (before.length + start) (before.length + place) ↔
      FirstAt mark text start place := by
  refine ⟨fun first => ?_, fun first => ?_⟩
  · have least := first.start_le
    refine ⟨by omega, (occursAt_append_left before).mp first.occurs, ?_⟩
    intro earlier behindStart less occurs
    exact first.not_before (before.length + earlier) (by omega) (by omega)
      ((occursAt_append_left before).mpr occurs)
  · have least := first.start_le
    refine ⟨by omega, (occursAt_append_left before).mpr first.occurs, ?_⟩
    intro earlier behindStart less occurs
    obtain ⟨inside, rfl⟩ := Nat.exists_eq_add_of_le (Nat.le_of_add_right_le behindStart)
    exact first.not_before inside (by omega) (by omega) ((occursAt_append_left before).mp occurs)

/-- A mark that does not stand at the start stands first where it does in the rest. -/
theorem firstAt_cons_succ (later : ¬ mark <+: c :: text) :
    FirstAt mark (c :: text) 0 (place + 1) ↔ FirstAt mark text 0 place := by
  refine ⟨fun first => ?_, fun first => ?_⟩
  · refine ⟨Nat.zero_le _, first.occurs, ?_⟩
    intro earlier _ less
    exact first.not_before (earlier + 1) (Nat.zero_le _) (by omega)
  · refine ⟨Nat.zero_le _, first.occurs, ?_⟩
    intro earlier _ less
    cases earlier with
    | zero => exact later
    | succ earlier => exact first.not_before earlier (Nat.zero_le _) (by omega)

end DocTags.Text
