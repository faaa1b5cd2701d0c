/-
# Laws of ordered associations

Changing one name is seen under that name and under no other, and it leaves the order of the
names alone: a name that is there stays where it is, and a new one goes to the end. The laws of
looking up hold of every list of pairs, since a change and a lookup stop at the same first pair;
only the passage from lookups to membership needs the names to be distinct.
-/

import DocTags.Assoc

namespace DocTags.Assoc

variable {α β : Type}

/-- What is found stands in the association. -/
theorem mem_of_lookup [BEq α] [LawfulBEq α] {name : α} {value : β} {pairs : List (α × β)}
    (found : pairs.lookup name = some value) : (name, value) ∈ pairs := by
  obtain ⟨before, after, rfl, -⟩ := List.lookup_eq_some_iff.mp found
  simp

/-- A name that is not there is not found. -/
theorem lookup_eq_none_of_not_mem [BEq α] [LawfulBEq α] {name : α} {pairs : List (α × β)}
    (absent : name ∉ names pairs) : pairs.lookup name = none := by
  apply Option.eq_none_iff_forall_ne_some.mpr
  intro value found
  exact absent (List.mem_map.mpr ⟨_, mem_of_lookup found, rfl⟩)

variable [DecidableEq α]

/-- A lookup stops at the first pair with its name. -/
theorem lookup_cons_eq_ite [BEq α] [LawfulBEq α] (name key : α) (value : β)
    (rest : List (α × β)) :
    List.lookup name ((key, value) :: rest) =
      if name = key then some value else rest.lookup name := by
  by_cases same : name = key
  · simp [same]
  · have unequal : (name == key) = false := beq_eq_false_iff_ne.mpr same
    rw [List.lookup_cons, unequal, if_neg same]

/-- A change is seen under its own name and under no other. -/
theorem lookup_alter [BEq α] [LawfulBEq α] (name other : α) (change : Option β → β)
    (pairs : List (α × β)) :
    (alter name change pairs).lookup other =
      if other = name then some (change (pairs.lookup name)) else pairs.lookup other := by
  induction pairs with
  | nil => simp [alter, lookup_cons_eq_ite]
  | cons pair rest ih =>
      obtain ⟨key, value⟩ := pair
      by_cases found : key = name
      · subst found
        by_cases same : other = key <;> simp [alter, lookup_cons_eq_ite, same]
      · have differs : name ≠ key := Ne.symm found
        by_cases same : other = key
        · subst same
          simp [alter, found]
        · simp [alter, lookup_cons_eq_ite, found, same, differs, ih]

/-- A value that is put is found under its own name and under no other. -/
theorem lookup_put [BEq α] [LawfulBEq α] (name other : α) (value : β) (pairs : List (α × β)) :
    (put name value pairs).lookup other =
      if other = name then some value else pairs.lookup other :=
  lookup_alter name other (fun _ => value) pairs

/-- Putting what a change makes of the present value is that change. -/
theorem put_lookup_eq_alter [BEq α] [LawfulBEq α] (name : α) (change : Option β → β)
    (pairs : List (α × β)) :
    put name (change (pairs.lookup name)) pairs = alter name change pairs := by
  induction pairs with
  | nil => simp [put, alter]
  | cons pair rest ih =>
      obtain ⟨key, value⟩ := pair
      by_cases found : key = name
      · subst found
        simp [put, alter]
      · have differs : name ≠ key := Ne.symm found
        simpa [put, alter, lookup_cons_eq_ite, found, differs] using ih

/-- Two changes under one name are one change. -/
theorem alter_alter (name : α) (first second : Option β → β) (pairs : List (α × β)) :
    alter name second (alter name first pairs) =
      alter name (fun value => second (some (first value))) pairs := by
  induction pairs with
  | nil => simp [alter]
  | cons pair rest ih =>
      obtain ⟨key, value⟩ := pair
      by_cases found : key = name
      · simp [alter, found]
      · simp [alter, found, ih]

/-- Something stands in a changed association. -/
theorem isEmpty_alter (name : α) (change : Option β → β) (pairs : List (α × β)) :
    (alter name change pairs).isEmpty = false := by
  fun_cases alter name change pairs <;> simp [*]

/-- A new name goes to the end. -/
theorem alter_of_not_mem {name : α} {pairs : List (α × β)} (absent : name ∉ names pairs)
    (change : Option β → β) : alter name change pairs = pairs ++ [(name, change none)] := by
  induction pairs with
  | nil => rfl
  | cons pair rest ih =>
      obtain ⟨key, value⟩ := pair
      simp only [names, List.map_cons, List.mem_cons, not_or] at absent
      have differs : key ≠ name := Ne.symm absent.1
      simp [alter, differs, ih absent.2]

/-- With distinct names, the next pair goes to the end of those before it. -/
theorem put_of_nodup {name : α} {value : β} {before rest : List (α × β)}
    (distinct : (names (before ++ (name, value) :: rest)).Nodup) :
    put name value before = before ++ [(name, value)] := by
  apply alter_of_not_mem
  intro known
  simp only [names, List.map_append, List.map_cons, List.nodup_append] at distinct
  exact distinct.2.2 name known name (by simp) rfl

/-- A change keeps the names and their order, and adds its own at the end if it is new. -/
theorem names_alter (name : α) (change : Option β → β) (pairs : List (α × β)) :
    names (alter name change pairs) =
      if name ∈ names pairs then names pairs else names pairs ++ [name] := by
  by_cases present : name ∈ names pairs
  · rw [if_pos present]
    induction pairs with
    | nil => simp [names] at present
    | cons pair rest ih =>
        obtain ⟨key, value⟩ := pair
        by_cases found : key = name
        · simp [alter, names, found]
        · have later : name ∈ names rest := by
            simpa [names, Ne.symm found] using present
          have kept := ih later
          simp only [names] at kept
          simp [alter, names, found, kept]
  · rw [if_neg present, alter_of_not_mem present]
    simp [names]

/-- The names of a changed association are the old ones and the changed one. -/
theorem mem_names_alter (name other : α) (change : Option β → β) (pairs : List (α × β)) :
    other ∈ names (alter name change pairs) ↔ other = name ∨ other ∈ names pairs := by
  rw [names_alter]
  by_cases present : name ∈ names pairs
  · rw [if_pos present]
    exact ⟨Or.inr, fun known => known.elim (fun same => same ▸ present) id⟩
  · rw [if_neg present]
    simp [or_comm]

/-- Distinct names stay distinct. -/
theorem nodup_names_alter (name : α) (change : Option β → β) {pairs : List (α × β)}
    (distinct : (names pairs).Nodup) : (names (alter name change pairs)).Nodup := by
  rw [names_alter]
  by_cases present : name ∈ names pairs
  · rwa [if_pos present]
  · rw [if_neg present, List.nodup_append]
    refine ⟨distinct, by simp, ?_⟩
    intro other known last atEnd same
    rw [List.mem_singleton.mp atEnd] at same
    exact present (same ▸ known)

/-- What stands in a changed association stood there before, or is what the change made. -/
theorem mem_alter [BEq α] [LawfulBEq α] {name : α} {change : Option β → β}
    {pairs : List (α × β)} {pair : α × β} (member : pair ∈ alter name change pairs) :
    pair ∈ pairs ∨ pair = (name, change (pairs.lookup name)) := by
  induction pairs with
  | nil => simpa [alter] using member
  | cons first rest ih =>
      obtain ⟨key, value⟩ := first
      by_cases found : key = name
      · subst found
        rcases List.mem_cons.mp (by simpa [alter] using member) with changed | later
        · exact Or.inr (by simpa using changed)
        · exact Or.inl (List.mem_cons_of_mem _ later)
      · have differs : name ≠ key := Ne.symm found
        rcases List.mem_cons.mp (by simpa [alter, found] using member) with kept | later
        · exact Or.inl (by simp [kept])
        · rcases ih later with old | changed
          · exact Or.inl (List.mem_cons_of_mem _ old)
          · exact Or.inr (by simpa [lookup_cons_eq_ite, differs] using changed)

/-- With distinct names, what is found is just what stands there. -/
theorem lookup_eq_some_iff_mem [BEq α] [LawfulBEq α] {pairs : List (α × β)}
    (distinct : (names pairs).Nodup) (name : α) (value : β) :
    pairs.lookup name = some value ↔ (name, value) ∈ pairs := by
  refine ⟨mem_of_lookup, fun member => ?_⟩
  induction pairs with
  | nil => simp at member
  | cons pair rest ih =>
      obtain ⟨key, first⟩ := pair
      obtain ⟨fresh, restDistinct⟩ := List.nodup_cons.mp distinct
      rcases List.mem_cons.mp member with here | later
      · simp only [Prod.mk.injEq] at here
        simp [here]
      · have differs : name ≠ key := by
          intro same
          apply fresh
          rw [← same]
          exact List.mem_map.mpr ⟨(name, value), later, rfl⟩
        simpa [lookup_cons_eq_ite, differs] using ih restDistinct later

end DocTags.Assoc
