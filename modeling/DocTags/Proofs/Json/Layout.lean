/-
# Layouts

The two ways of writing JSON differ only in the blanks between the tokens: those before every field
and item, which are also those before a closing bracket, and those after a colon. So they are two
layouts of one way of writing, and what reads a value in any layout reads it in both.
-/

import DocTags.Proofs.Json.Strings

namespace DocTags.Json

/-- A text of blanks only. -/
def Blank (text : Text) : Prop :=
  ∀ c ∈ text, isBlank c

/-- What is written between the tokens. -/
structure Layout where
  /-- What stands before a field or an item at a level. -/
  line : Nat → Text
  /-- What stands between a colon and the value after it. -/
  gap : Text
  line_blank : ∀ level, Blank (line level)
  gap_blank : Blank gap

namespace Layout

/-- Without any blanks. -/
def compact : Layout where
  line _ := []
  gap := []
  line_blank := by simp [Blank]
  gap_blank := by simp [Blank]

/-- With one field or item to a line. -/
def pretty : Layout where
  line := newLine
  gap := [' ']
  line_blank level c inside := by
    rcases List.mem_cons.mp inside with rfl | space
    · decide
    · rw [List.eq_of_mem_replicate space]
      decide
  gap_blank := by simp [Blank, isBlank]

variable (layout : Layout)

/-- What stands before a closing bracket. -/
def closing (level : Nat) (empty : Bool) : Text :=
  if empty then [] else layout.line level

mutual

/-- A value in a layout, which is itself at a level, in front of a text. -/
def write (level : Nat) (rest : Text) : Json → Text
  | number value => Text.ofNat value ++ rest
  | str value => string value ++ rest
  | array items =>
    '[' :: writeItems (level + 1) (layout.closing level items.isEmpty ++ ']' :: rest) items
  | object fields =>
    '\x7b' :: writeFields (level + 1) (layout.closing level fields.isEmpty ++ '\x7d' :: rest) fields

/-- The items of an array in a layout, in front of a text. -/
def writeItems (level : Nat) (rest : Text) : List Json → Text
  | [] => rest
  | item :: items =>
    layout.line level ++ write level (comma items.isEmpty ++ writeItems level rest items) item

/-- The fields of an object in a layout, in front of a text. -/
def writeFields (level : Nat) (rest : Text) : List (Text × Json) → Text
  | [] => rest
  | (name, value) :: fields =>
    layout.line level ++ (string name ++ ':' :: (layout.gap ++
      write level (comma fields.isEmpty ++ writeFields level rest fields) value))

end

theorem closing_blank (level : Nat) (empty : Bool) : Blank (layout.closing level empty) := by
  cases empty with
  | false => exact layout.line_blank level
  | true => simp [closing, Blank]

/-! ## The two layouts -/

mutual

/-- Without blanks, a value is written in the compact layout. -/
theorem write_compact (level : Nat) (rest : Text) (json : Json) :
    compact.write level rest json = compactBefore rest json := by
  cases json with
  | number value => rw [write, compactBefore]
  | str value => rw [write, compactBefore]
  | array items =>
      rw [write, compactBefore, writeItems_compact, closing]
      cases items <;> rfl
  | object fields =>
      rw [write, compactBefore, writeFields_compact, closing]
      cases fields <;> rfl

theorem writeItems_compact (level : Nat) (rest : Text) (items : List Json) :
    compact.writeItems level rest items = compactItemsBefore rest items := by
  cases items with
  | nil => rw [writeItems, compactItemsBefore]
  | cons item items =>
      rw [writeItems, compactItemsBefore, write_compact, writeItems_compact]
      rfl

theorem writeFields_compact (level : Nat) (rest : Text) (fields : List (Text × Json)) :
    compact.writeFields level rest fields = compactFieldsBefore rest fields := by
  cases fields with
  | nil => rw [writeFields, compactFieldsBefore]
  | cons field fields =>
      obtain ⟨name, value⟩ := field
      rw [writeFields, compactFieldsBefore, write_compact, writeFields_compact]
      rfl

end

mutual

/-- Over several lines, a value is written in the pretty layout. -/
theorem write_pretty (level : Nat) (rest : Text) (json : Json) :
    pretty.write level rest json = prettyBefore level rest json := by
  cases json with
  | number value => rw [write, prettyBefore]
  | str value => rw [write, prettyBefore]
  | array items =>
      rw [write, prettyBefore, writeItems_pretty]
      rfl
  | object fields =>
      rw [write, prettyBefore, writeFields_pretty]
      rfl

theorem writeItems_pretty (level : Nat) (rest : Text) (items : List Json) :
    pretty.writeItems level rest items = prettyItemsBefore level rest items := by
  cases items with
  | nil => rw [writeItems, prettyItemsBefore]
  | cons item items =>
      rw [writeItems, prettyItemsBefore, write_pretty, writeItems_pretty]
      rfl

theorem writeFields_pretty (level : Nat) (rest : Text) (fields : List (Text × Json)) :
    pretty.writeFields level rest fields = prettyFieldsBefore level rest fields := by
  cases fields with
  | nil => rw [writeFields, prettyFieldsBefore]
  | cons field fields =>
      obtain ⟨name, value⟩ := field
      rw [writeFields, prettyFieldsBefore, write_pretty, writeFields_pretty]
      rfl

end

end Layout

/-! ## Blanks before a value -/

theorem skipBlanks_append {blanks : Text} (blank : Blank blanks) (text : Text) :
    skipBlanks (blanks ++ text) = skipBlanks text :=
  List.dropWhile_append_of_pos blank

/-- A reader passes over the blanks before what it reads. -/
def Reader.SkipsBlanks {α : Type} (value : Reader α) : Prop :=
  ∀ blanks text, Blank blanks → value (blanks ++ text) = value text

theorem skipsBlanks_nextName (first : Bool) : Reader.SkipsBlanks (nextName first) := by
  intro blanks text blank
  rw [nextName, nextName, skipBlanks_append blank]

theorem skipsBlanks_readString : Reader.SkipsBlanks readString := by
  intro blanks text blank
  rw [readString, readString, skipBlanks_append blank]

theorem skipsBlanks_readObject {α : Type} (levels : Nat) (value : Reader α) :
    Reader.SkipsBlanks (readObject levels value) := by
  intro blanks text blank
  rw [readObject, readObject, skipBlanks_append blank]

end DocTags.Json
