/-
# TOML values

What a TOML text means, and the tables it is put together from. A table that was only passed
through on the way to another one may still be opened by a header of its own; a table made by a
dotted key may take further dotted keys, but no header. Nothing may be defined twice.
-/

import DocTags.Assoc
import DocTags.Text.Basic

namespace DocTags.Toml

/-- A value. Numbers keep their spelling, and of dates and times only their presence. -/
inductive Value where
  | text (value : Text)
  | boolean (value : Bool)
  | number (spelling : Text)
  | moment
  | array (items : List Value)
  | table (fields : List (Text × Value))

/-- What stands under a key while a text is read: a value that is complete, a table, or the tables
of a header in double brackets. -/
inductive Node where
  | value (value : Value)
  | table (passed dotted : Bool) (fields : List (Text × Node))
  | tables (items : List Node)

namespace Node

/-- A table with nothing in it, opened by a header or by braces. -/
def empty : Node :=
  .table false false []

/-- The node under a key of a table. -/
def field? (key : Text) : Node → Option Node
  | .table _ _ fields => fields.lookup key
  | _ => none

/-- A table with a node under a key, which replaces what stood there. -/
def setField (table : Node) (key : Text) (child : Node) : Option Node :=
  match table with
  | .table passed dotted fields => some (.table passed dotted (Assoc.put key child fields))
  | _ => none

/-- Edit the table that some keys lead to, making the tables on the way. Of the tables of a header
in double brackets the last one is meant. Keys that are joined by dots in front of a value do not
lead into a table that was opened as such. -/
def descend (dotted : Bool) (edit : Node → Option Node) : List Text → Node → Option Node
  | [], node => edit node
  | key :: path, node =>
    match (node.field? key).getD (.table true dotted []) with
    | .value _ => none
    | .tables items => do
      let last ← items.getLast?
      let edited ← descend dotted edit path last
      node.setField key (.tables (items.dropLast ++ [edited]))
    | .table passed childDotted fields =>
      if dotted && !passed then none
      else do
        let edited ← descend dotted edit path (.table passed childDotted fields)
        node.setField key edited

/-- The table that some keys lead to. -/
def get? : List Text → Node → Option Node
  | [], node => some node
  | key :: path, node =>
    match node.field? key with
    | some (.tables items) => items.getLast?.bind (get? path)
    | some child => get? path child
    | none => none

/-- Define a value by the keys that are joined by dots in front of it. -/
def define (path : List Text) (key : Text) (value : Value) (node : Node) : Option Node :=
  node.descend true
    (fun table =>
      match table with
      | .table passed dotted fields =>
        if dotted = path.isEmpty then none
        else if (fields.lookup key).isSome then none
        else some (.table passed dotted (Assoc.put key (.value value) fields))
      | _ => none)
    path

mutual

/-- The value of a node that is complete. -/
def toValue : Node → Value
  | .value found => found
  | .table _ _ fields => .table (fieldValues fields)
  | .tables items => .array (itemValues items)

/-- The values of the fields of a table. -/
def fieldValues : List (Text × Node) → List (Text × Value)
  | [] => []
  | (key, node) :: rest => (key, toValue node) :: fieldValues rest

/-- The values of some tables. -/
def itemValues : List Node → List Value
  | [] => []
  | node :: rest => toValue node :: itemValues rest

end

end Node

/-- A text that has been read up to some line: the tables that are complete, the table that is open
with the keys of its header, and whether that header had double brackets. -/
structure Draft where
  root : Node
  current : Node
  path : List Text
  repeated : Bool

namespace Draft

/-- Nothing has been read, and the root is open. -/
def start : Draft :=
  ⟨.empty, .empty, [], false⟩

/-- Put the open table into its place. -/
def close (draft : Draft) : Option Node :=
  match draft.path.getLast? with
  | none => some draft.current
  | some key =>
    draft.root.descend false
      (fun parent =>
        if draft.repeated then
          match parent.field? key with
          | none => parent.setField key (.tables [draft.current])
          | some (.tables items) => parent.setField key (.tables (items ++ [draft.current]))
          | some _ => none
        else parent.setField key draft.current)
      draft.path.dropLast

/-- Open a table by its header. It may have been passed through, and then keeps its fields. -/
def openTable (path : List Text) (draft : Draft) : Option Draft := do
  let key ← path.getLast?
  let root ← draft.close
  let root ← root.descend false
    (fun parent =>
      match parent.field? key with
      | none => some parent
      | some (.table true false _) => some parent
      | some _ => none)
    path.dropLast
  let fields :=
    match root.get? path with
    | some (.table _ _ fields) => fields
    | _ => []
  return ⟨root, .table false false fields, path, false⟩

/-- Open a further table by a header in double brackets. -/
def openItem (path : List Text) (draft : Draft) : Option Draft := do
  let key ← path.getLast?
  let root ← draft.close
  let root ← root.descend false
    (fun parent =>
      match parent.field? key with
      | none => some parent
      | some (.tables _) => some parent
      | some _ => none)
    path.dropLast
  return ⟨root, .empty, path, true⟩

/-- Define a value in the open table. -/
def define (keys : List Text) (value : Value) (draft : Draft) : Option Draft := do
  let key ← keys.getLast?
  let current ← draft.current.define keys.dropLast key value
  return { draft with current }

end Draft

end DocTags.Toml
