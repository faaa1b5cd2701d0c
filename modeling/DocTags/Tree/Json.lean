/-
# Trees as JSON

A tree is written as an object with its groups, each under its name, and then its values. It is
read from such an object, in which further fields are passed over, or from an array of the two.
The text may open at most 127 arrays and objects inside each other, of which every level of the
tree takes two.
-/

import DocTags.Json.Reader
import DocTags.Json.Writer
import DocTags.Tree.Basic

namespace DocTags.Tree

/-- The name of the field that holds the groups. -/
def groupsField : Text :=
  ['g', 'r', 'o', 'u', 'p', 's']

/-- The name of the field that holds the values. -/
def valuesField : Text :=
  ['v', 'a', 'l', 'u', 'e', 's']

mutual

/-- The JSON value of a tree. -/
def toJson : Tree → Json
  | node values groups =>
    .object [(groupsField, .object (groupsToJson groups)),
      (valuesField, .object (values.map fun (name, value) => (name, .str value)))]

/-- The JSON values of some groups under their names. -/
def groupsToJson : List (Text × Tree) → List (Text × Json)
  | [] => []
  | (name, group) :: rest => (name, toJson group) :: groupsToJson rest

end

/-- The fields of a node that have been read. -/
structure Fields where
  groups : Option (List (Text × Tree))
  values : Option (List (Text × Text))

/-- The fields of a node up to the closing bracket, of which at most `fuel` are read, added to
those read before. A field may not come twice. -/
def fieldsFrom (readGroups : Json.Reader (List (Text × Tree)))
    (readValues : Json.Reader (List (Text × Text))) : Nat → Bool → Fields → Json.Reader Fields
  | 0, _, _, _ => .error .ended
  | fuel + 1, first, found, text => do
    let (more, rest) ← Json.nextName first text
    if more then
      let (name, rest) ← Json.stringRest rest
      if name = groupsField then
        if found.groups.isSome then .error .misshapen
        else
          let (_, rest) ← Json.colon rest
          let (groups, rest) ← readGroups rest
          fieldsFrom readGroups readValues fuel false { found with groups := some groups } rest
      else if name = valuesField then
        if found.values.isSome then .error .misshapen
        else
          let (_, rest) ← Json.colon rest
          let (values, rest) ← readValues rest
          fieldsFrom readGroups readValues fuel false { found with values := some values } rest
      else
        let (_, rest) ← Json.colon rest
        let (_, rest) ← Json.skip rest
        fieldsFrom readGroups readValues fuel false found rest
    else return (found, rest)

/-- A node, given how its groups and its values are read. -/
def readNode (readGroups : Json.Reader (List (Text × Tree)))
    (readValues : Json.Reader (List (Text × Text))) : Json.Reader Tree := fun text =>
  match Json.skipBlanks text with
  | '\x7b' :: rest => do
    let (found, rest) ← fieldsFrom readGroups readValues (rest.length + 1) true ⟨none, none⟩ rest
    match found with
    | ⟨some groups, some values⟩ => return (node values groups, rest)
    | _ => .error .misshapen
  | '[' :: rest => do
    let (more, rest) ← Json.nextItem true rest
    if !more then .error .misshapen
    else
      let (groups, rest) ← readGroups rest
      let (more, rest) ← Json.nextItem false rest
      if !more then .error .misshapen
      else
        let (values, rest) ← readValues rest
        let (_, rest) ← Json.closeArray rest
        return (node values groups, rest)
  | other => .error (Json.refuse other)

/-- A tree, where `levels` more arrays and objects may be opened inside each other. -/
def readTree : Nat → Json.Reader Tree
  | 0 => fun text =>
    match Json.skipBlanks text with
    | '\x7b' :: _ => .error .malformed
    | '[' :: _ => .error .malformed
    | other => .error (Json.refuse other)
  | 1 =>
    readNode (Json.readObject 0 fun _ => .error .malformed) (Json.readObject 0 Json.readString)
  | levels + 2 =>
    readNode (Json.readObject (levels + 1) (readTree levels))
      (Json.readObject (levels + 1) Json.readString)

/-- How many arrays and objects a text may open inside each other. -/
def levelLimit : Nat :=
  127

/-- The tree that a JSON text holds. -/
def ofJson (text : Text) : Except Json.Fault Tree :=
  Json.readAll (readTree levelLimit) text

end DocTags.Tree
