/-
# Objects are read back

An object that is written in a layout is read field by field: its next name up to the colon, then
the value, then what remains, which starts with a comma if there is another field. If the reader of
the values reads some of them and finds a fault in the others, the object is read when all of its
values are, with its fields in their order; otherwise the fault of the first bad value is its own.
-/

import DocTags.Proofs.Assoc
import DocTags.Proofs.Json.Layout

namespace DocTags.Json

namespace Layout

variable (layout : Layout)

/-- The fields that remain, in front of a text. A comma stands before them unless they are the first
ones. -/
def remaining (first : Bool) (level : Nat) (rest : Text) (fields : List (Text × Json)) : Text :=
  (if first then [] else comma fields.isEmpty) ++ layout.writeFields level rest fields

mutual

/-- A value is written in front of a text. -/
theorem length_le_write (level : Nat) (rest : Text) (json : Json) :
    rest.length ≤ (layout.write level rest json).length := by
  cases json with
  | number value => simp [write]
  | str value => simp [write]
  | array items =>
      have inner := length_le_writeItems (level + 1)
        (layout.closing level items.isEmpty ++ ']' :: rest) items
      simp only [write, List.length_append, List.length_cons] at inner ⊢
      omega
  | object fields =>
      have inner := length_le_writeFields (level + 1)
        (layout.closing level fields.isEmpty ++ '\x7d' :: rest) fields
      simp only [write, List.length_append, List.length_cons] at inner ⊢
      omega

theorem length_le_writeItems (level : Nat) (rest : Text) (items : List Json) :
    rest.length ≤ (layout.writeItems level rest items).length := by
  cases items with
  | nil => simp [writeItems]
  | cons item items =>
      have later := length_le_writeItems level rest items
      have first := length_le_write level
        (comma items.isEmpty ++ layout.writeItems level rest items) item
      simp only [writeItems, List.length_append] at first ⊢
      omega

/-- Every field takes at least one character. -/
theorem length_le_writeFields (level : Nat) (rest : Text) (fields : List (Text × Json)) :
    fields.length + rest.length ≤ (layout.writeFields level rest fields).length := by
  cases fields with
  | nil => simp [writeFields]
  | cons field fields =>
      obtain ⟨name, value⟩ := field
      have later := length_le_writeFields level rest fields
      have first := length_le_write level
        (comma fields.isEmpty ++ layout.writeFields level rest fields) value
      simp only [writeFields, List.length_append, List.length_cons] at first ⊢
      omega

end

/-- What is written for a value is read as an item, up to the text behind it, if the value is sound,
and is refused otherwise. -/
def ReadsIf {α : Type} (sound : Bool) (level : Nat) (value : Reader α) (json : Json) (item : α) :
    Prop :=
  ∀ rest, value (layout.write level rest json) =
    if sound then .ok (item, rest) else .error .malformed

end Layout

variable {layout : Layout} {level : Nat}

/-- The quote of a name that is not the first one stands behind a comma. -/
theorem nextName_comma {blanks : Text} (blank : Blank blanks) (rest : Text) :
    nextName false (',' :: (blanks ++ '"' :: rest)) = .ok (true, rest) := by
  have comma : skipBlanks (',' :: (blanks ++ '"' :: rest)) = ',' :: (blanks ++ '"' :: rest) := rfl
  have quote : skipBlanks (blanks ++ '"' :: rest) = '"' :: rest := skipBlanks_append blank _
  simp only [nextName, comma, quote]
  rfl

/-- The next field that remains is read up to its name. -/
theorem nextName_remaining (first : Bool) (rest name : Text) (json : Json)
    (fields : List (Text × Json)) :
    nextName first (layout.remaining first level rest ((name, json) :: fields)) =
      .ok (true, name.flatMap stringChar ++ '"' :: ':' ::
        (layout.gap ++ layout.write level (layout.remaining false level rest fields) json)) := by
  rw [Layout.remaining, Layout.writeFields, string_append]
  cases first with
  | true =>
      rw [if_pos rfl, List.nil_append, skipsBlanks_nextName true _ _ (layout.line_blank level)]
      rfl
  | false => exact nextName_comma (layout.line_blank level) _

theorem colon_cons (rest : Text) : colon (':' :: rest) = .ok ((), rest) :=
  rfl

/-- When no field remains, the closing bracket is read. -/
theorem nextName_closing (first : Bool) {blanks : Text} (blank : Blank blanks) (rest : Text) :
    nextName first (layout.remaining first level (blanks ++ '\x7d' :: rest) []) =
      .ok (false, rest) := by
  have here : layout.remaining first level (blanks ++ '\x7d' :: rest) [] =
      blanks ++ '\x7d' :: rest := by
    rw [Layout.remaining, Layout.writeFields]
    cases first <;> rfl
  rw [here, skipsBlanks_nextName first _ _ blank]
  rfl

section

variable {α : Type} {value : Reader α} (json : α → Json) (sound : α → Bool)

/-- The fields that remain are added in their order to those that were found, if all of their values
are sound. -/
theorem entriesFrom_remaining (skips : value.SkipsBlanks)
    {blanks : Text} (blank : Blank blanks) (rest : Text) (pairs : List (Text × α))
    (reads : ∀ pair ∈ pairs,
      layout.ReadsIf (sound pair.2) level value (json pair.2) pair.2)
    (found : List (Text × α)) (distinct : (Assoc.names (found ++ pairs)).Nodup) (first : Bool)
    {fuel : Nat} (enough : pairs.length < fuel) :
    entriesFrom value fuel first found
        (layout.remaining first level (blanks ++ '\x7d' :: rest)
          (pairs.map fun pair => (pair.1, json pair.2))) =
      if pairs.all fun pair => sound pair.2 then .ok (found ++ pairs, rest)
      else .error .malformed := by
  induction pairs generalizing found first fuel with
  | nil =>
      obtain ⟨fuel, rfl⟩ := Nat.exists_eq_succ_of_ne_zero (Nat.ne_zero_of_lt enough)
      rw [List.map_nil, entriesFrom, nextName_closing first blank, List.append_nil]
      rfl
  | cons pair pairs ih =>
      obtain ⟨name, item⟩ := pair
      obtain ⟨fuel, rfl⟩ := Nat.exists_eq_succ_of_ne_zero (Nat.ne_zero_of_lt enough)
      obtain ⟨here, later⟩ := List.forall_mem_cons.mp reads
      rw [List.map_cons, entriesFrom, nextName_remaining]
      simp only [bind, Except.bind, if_true, stringRest_flatMap]
      rw [colon_cons]
      simp only [skips _ _ layout.gap_blank, here _, List.all_cons]
      by_cases good : sound item = true
      · have next : (Assoc.names ((found ++ [(name, item)]) ++ pairs)).Nodup := by
          rwa [List.append_assoc]
        have remaining := ih later (found ++ [(name, item)]) next false
          (Nat.lt_of_succ_lt_succ enough)
        rw [List.append_assoc, List.singleton_append] at remaining
        simp only [good, if_true, Assoc.put_of_nodup distinct, remaining, Bool.true_and]
      · simp [good]

/-- An object in a layout is read when all of its values are. -/
theorem readObject_write (skips : value.SkipsBlanks) {pairs : List (Text × α)}
    (reads : ∀ pair ∈ pairs,
      layout.ReadsIf (sound pair.2) (level + 1) value (json pair.2) pair.2)
    (distinct : (Assoc.names pairs).Nodup) (levels : Nat) :
    layout.ReadsIf (pairs.all fun pair => sound pair.2) level (readObject (levels + 1) value)
      (.object (pairs.map fun pair => (pair.1, json pair.2))) pairs := by
  intro rest
  have enough := layout.length_le_writeFields (level + 1)
    (layout.closing level (pairs.map fun pair => (pair.1, json pair.2)).isEmpty ++ '\x7d' :: rest)
    (pairs.map fun pair => (pair.1, json pair.2))
  rw [List.length_map] at enough
  have room := Nat.lt_succ_of_le (Nat.le_trans (Nat.le_add_right _ _) enough)
  have fields := entriesFrom_remaining json sound skips
    (layout.closing_blank level (pairs.map fun pair => (pair.1, json pair.2)).isEmpty) rest pairs
    reads [] distinct true room
  rw [Layout.write]
  exact fields

end

/-- No object is read where none may be opened. -/
theorem readObject_zero {α : Type} {value : Reader α} (fields : List (Text × Json))
    (pairs : List (Text × α)) :
    layout.ReadsIf false level (readObject 0 value) (.object fields) pairs := by
  intro rest
  rw [Layout.write]
  rfl

/-- A written string is read. -/
theorem readString_write (value : Text) :
    layout.ReadsIf true level readString (.str value) value := by
  intro rest
  rw [Layout.write, string_append]
  exact stringRest_flatMap value rest

end DocTags.Json
