/-
# Ordered associations

A list of pairs read as a map that remembers the order in which its names first came. Looking up
is `List.lookup`; changing the value of a name that is already there keeps its place, and a new
name goes to the end.
-/

namespace DocTags.Assoc

variable {α β : Type}

/-- Replace what stands under `name` by `change` of it. -/
def alter [DecidableEq α] (name : α) (change : Option β → β) : List (α × β) → List (α × β)
  | [] => [(name, change none)]
  | (key, value) :: rest =>
    if key = name then (key, change (some value)) :: rest
    else (key, value) :: alter name change rest

/-- Let `value` stand under `name`. -/
def put [DecidableEq α] (name : α) (value : β) (pairs : List (α × β)) : List (α × β) :=
  alter name (fun _ => value) pairs

/-- The names, in their order. -/
def names (pairs : List (α × β)) : List α :=
  pairs.map Prod.fst

end DocTags.Assoc
