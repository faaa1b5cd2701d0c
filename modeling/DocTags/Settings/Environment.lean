/-
# Settings in the environment

Environment variables whose names start with `HIERARDOC_`, in letters of either case, form a tree
of values. Two underscores, or a dot, lead from a table to its field, and an index in brackets
leads to an item of a list. On the way, whatever is not a table or a list is replaced by an empty
one, and a list is filled up with missing values. A name that makes no sense as a path is a field of
its own.

The text of a variable is read as a boolean, a whole number or a number where it is one; the text
of the list of extensions is cut at its commas; any other text stands for itself.
-/

import DocTags.Assoc
import DocTags.Decimal.Numeral
import DocTags.Decimal.Shortest
import DocTags.Settings.Layer
import DocTags.Text.Lowercase
import DocTags.Text.Quoted

namespace DocTags

/-- The variables of a process by their names. -/
abbrev Environment := List (Text × Text)

namespace Environment

/-- A value in the tree of settings. -/
inductive Value where
  | missing
  | boolean (value : Bool)
  | integer (value : Int)
  | number (value : Binary64)
  | text (value : Text)
  | list (items : List Value)
  | table (fields : List (Text × Value))

/-- One step from a value to a part of it. -/
inductive Step where
  | field (name : Text)
  | item (index : Int)

/-- The characters of a field name in a path. -/
def isNameChar (c : Char) : Bool :=
  c.isAlphanum || c == ' ' || c == '_' || c == '-'

/-- The steps after the first name of a path, of which at most `fuel` are read. -/
def stepsFrom : Nat → Text → Option (List Step)
  | _, [] => some []
  | 0, _ => none
  | fuel + 1, '.' :: rest =>
    match rest.takeWhile isNameChar with
    | [] => none
    | name => (stepsFrom fuel (rest.dropWhile isNameChar)).map (.field name :: ·)
  | fuel + 1, '[' :: rest =>
    let digits := rest.takeWhile (· != ']')
    let trimmed := Text.trim (fun c => c == ' ' || c == '\t') digits
    match rest.dropWhile (· != ']'), trimmed with
    | ']' :: _, '+' :: _ => none
    | ']' :: after, _ => do
      let index ← Numeral.integer? trimmed
      let steps ← stepsFrom fuel after
      return .item index :: steps
    | _, _ => none
  | _, _ => none

/-- The steps of a path; a text that is not a path is a single name. -/
def steps (key : Text) : List Step :=
  match key.takeWhile isNameChar with
  | [] => [.field key]
  | name =>
    match stepsFrom key.length (key.dropWhile isNameChar) with
    | some steps => .field name :: steps
    | none => [.field key]

/-- The fields of a table; anything else has none. -/
def Value.fields : Value → List (Text × Value)
  | table fields => fields
  | _ => []

/-- The items of a list; anything else has none. -/
def Value.items : Value → List Value
  | list items => items
  | _ => []

/-- An index counted from the start of a list with `length` items; a negative one counts from the
end, if it does not reach beyond the start. -/
def fromStart? (length : Nat) (index : Int) : Option Nat :=
  if 0 ≤ index then some index.toNat
  else if -index ≤ length then some (length - (-index).toNat)
  else none

/-- Put a value where some steps lead. -/
def Value.put (new : Value) : List Step → Value → Value
  | [], _ => new
  | .field name :: steps, old =>
    .table (Assoc.alter name (fun part => put new steps (part.getD .missing)) old.fields)
  | .item index :: steps, old =>
    match fromStart? old.items.length index with
    | some place =>
      let filled := old.items ++ List.replicate (place + 1 - old.items.length) .missing
      .list (filled.modify place (put new steps))
    | none => .list old.items

/-- What some names lead to in nested tables. -/
def Value.get? : List Text → Value → Option Value
  | [], value => some value
  | name :: names, value => (value.fields.lookup name).bind (get? names)

/-- What the names of the variables start with. -/
def variableStart : Text :=
  "hierardoc_".toList

/-- The path that holds the format. -/
def formatKey : Text :=
  "format".toList

/-- The path that holds the extensions. -/
def extensionsKey : Text :=
  "scan.file_extensions".toList

/-- The path that holds whether comments without tags are reported. -/
def includeEmptyKey : Text :=
  "scan.include_empty".toList

/-- The path that the name of a variable stands for, if it is one of ours. -/
def key? (name : Text) : Option Text :=
  (variableStart.isPrefixOf? (Text.lowercase name)).map (Text.replace ['_', '_'] ['.'])

/-- The value of the text that stands under a path. -/
def readValue (key text : Text) : Value :=
  let lowered := Text.lowercase text
  if lowered = "true".toList then .boolean true
  else if lowered = "false".toList then .boolean false
  else
    match Numeral.integer? text, Numeral.binary64? text with
    | some integer, _ => .integer integer
    | none, some number => .number number
    | none, none =>
      if key = extensionsKey then .list ((Text.splitOn ',' text).map .text) else .text text

/-- The tree of the variables, put in one after the other. -/
def tree (environment : Environment) : Value :=
  environment.foldl
    (fun tree (name, text) =>
      match key? name with
      | some key => (readValue key text).put (steps key) tree
      | none => tree)
    (.table [])

/-- Why a variable cannot be used: its text is not one of the formats, or its value is not of the
wanted kind. -/
inductive Problem where
  | variant (text : Text)
  | kind (found expected key origin : Text)
deriving DecidableEq

/-- The problem in words. -/
def Problem.message : Problem → Text
  | variant text => "invalid variant: ".toList ++ text
  | kind found expected key origin =>
    "invalid type: ".toList ++ found ++ ", expected ".toList ++ expected ++
      (if key = [] then [] else " for key `".toList ++ key ++ ['`']) ++
      (if origin = [] then [] else " in ".toList ++ origin)

/-- A whole number in words. -/
def integerText (value : Int) : Text :=
  (if value < 0 then ['-'] else []) ++ Text.ofNat value.natAbs

/-- What kind of value stands where another was expected. -/
def Value.kind : Value → Text
  | missing => "unit value".toList
  | boolean value => "boolean `".toList ++ (if value then "true" else "false").toList ++ ['`']
  | integer value => "integer `".toList ++ integerText value ++ ['`']
  | number value => "floating point `".toList ++ value.toPointText ++ ['`']
  | text value => "string ".toList ++ Text.quoted value
  | list _ => "sequence".toList
  | table _ => "map".toList

/-- A value as a text, where a text is wanted under a path. -/
def Value.toText (key : Text) : Value → Except Problem Text
  | boolean value => .ok (if value then "true" else "false").toList
  | integer value => .ok (integerText value)
  | number value => .ok value.toText
  | text value => .ok value
  | other => .error (.kind other.kind "a string".toList key [])

/-- The texts that mean that something holds. -/
def truthTexts : List Text :=
  ["1".toList, "true".toList, "on".toList, "yes".toList]

/-- The texts that mean that something does not hold. -/
def falsehoodTexts : List Text :=
  ["0".toList, "false".toList, "off".toList, "no".toList]

/-- A value as a truth value, where one is wanted under a path. -/
def Value.toBool (key : Text) : Value → Except Problem Bool
  | boolean value => .ok value
  | integer value => .ok (value != 0)
  | number value => .ok !value.isZero
  | text value =>
    let lowered := Text.lowercase value
    if lowered ∈ truthTexts then .ok true
    else if lowered ∈ falsehoodTexts then .ok false
    else
      .error (.kind (Value.text lowered).kind "a boolean".toList key "the environment".toList)
  | other => .error (.kind other.kind "a boolean".toList key [])

/-- A value as a list of texts, where one is wanted under a path. -/
def Value.toTexts (key : Text) : Value → Except Problem (List Text)
  | list items => items.mapM (Value.toText key)
  | other => .error (.kind other.kind "a sequence".toList [] [])

/-- The format that a text names, in letters of either case. -/
def readFormat (text : Text) : Except Problem Format :=
  match Format.ofNameIgnoringCase? text with
  | some format => .ok format
  | none => .error (.variant text)

/-- The value under a path. -/
def at? (environment : Environment) (key : Text) : Option Value :=
  environment.tree.get? (Text.splitOn '.' key)

/-- The format that the environment gives. -/
def format (environment : Environment) : Except Problem (Option Format) :=
  (environment.at? formatKey).mapM fun value => do readFormat (← value.toText formatKey)

/-- The extensions that the environment gives. -/
def extensions (environment : Environment) : Except Problem (Option (List Text)) :=
  (environment.at? extensionsKey).mapM (Value.toTexts extensionsKey)

/-- Whether the environment says that comments without tags are reported. -/
def includeEmpty (environment : Environment) : Except Problem (Option Bool) :=
  (environment.at? includeEmptyKey).mapM (Value.toBool includeEmptyKey)

end Environment

end DocTags
