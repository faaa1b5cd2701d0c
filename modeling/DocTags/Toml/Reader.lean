/-
# Reading TOML

Values, and whole texts line by line: a header opens a table, and every other line that is not
empty defines a value in the open table. Arrays may run over several lines; the fields of a table
in braces stand on one.
-/

import DocTags.Toml.Number
import DocTags.Toml.Value

namespace DocTags.Toml

/-- One fixed word. -/
def word (expected : Text) : Reader Unit := fun text =>
  (expected.isPrefixOf? text).map fun rest => ((), rest)

/-- The items of an array up to its closing bracket, of which at most `fuel` are read. A comma may
stand behind the last one. -/
def items (value : Reader Value) : Nat → Reader (List Value)
  | 0, _ => none
  | fuel + 1, text =>
    match skipSpace text with
    | ']' :: rest => some ([], rest)
    | rest => do
      let (item, rest) ← value rest
      match skipSpace rest with
      | ',' :: rest =>
        let (more, rest) ← items value fuel rest
        return (item :: more, rest)
      | ']' :: rest => return ([item], rest)
      | _ => none

/-- The fields of a table in braces up to the closing brace, of which at most `fuel` are read. -/
def fields (value : Reader Value) : Nat → Node → Reader Node
  | 0, _, _ => none
  | fuel + 1, table, text => do
    let (path, rest) ← keys text
    let (_, rest) ← exactly '=' rest
    let (found, rest) ← value (skipBlanks rest)
    let key ← path.getLast?
    let table ← table.define path.dropLast key found
    match skipBlanks rest with
    | ',' :: rest => fields value fuel table rest
    | '\x7d' :: rest => return (table, rest)
    | _ => none

/-- A number, a date or a time. -/
def numeric : Reader Value := fun text =>
  match moment text with
  | some (_, rest) => some (.moment, rest)
  | none =>
    match decimal text with
    | some (spelling, rest) => some (.number spelling, rest)
    | none => (integer text).map fun (spelling, rest) => (.number spelling, rest)

/-- A value that holds no others. -/
def scalar : Reader Value
  | [] => none
  | c :: rest =>
    if c = '"' ∨ c = '\'' then (string (c :: rest)).map fun (text, rest) => (.text text, rest)
    else if c = 't' then (word ['r', 'u', 'e'] rest).map fun (_, rest) => (.boolean true, rest)
    else if c = 'f' then
      (word ['a', 'l', 's', 'e'] rest).map fun (_, rest) => (.boolean false, rest)
    else if c.isDigit || c == '+' || c == '-' || c == 'i' || c == 'n' then numeric (c :: rest)
    else none

/-- A value in which `levels` arrays and tables may be nested. -/
def value : Nat → Reader Value
  | 0, text => scalar text
  | levels + 1, text =>
    match text with
    | '[' :: rest =>
      (items (value levels) (rest.length + 1) rest).map fun (items, rest) => (.array items, rest)
    | '\x7b' :: rest =>
      match skipBlanks rest with
      | '\x7d' :: rest => some (.table [], rest)
      | rest =>
        (fields (value levels) (rest.length + 1) .empty rest).map fun (table, rest) =>
          (table.toValue, rest)
    | text => scalar text

/-- A header in double brackets, or a header, or the definition of a value, up to the end of its
line. -/
def line (draft : Draft) : Reader Draft
  | '[' :: '[' :: rest => do
    let (path, rest) ← keys rest
    let (_, rest) ← word [']', ']'] rest
    let (_, rest) ← lineEnd rest
    return (← draft.openItem path, rest)
  | '[' :: rest => do
    let (path, rest) ← keys rest
    let (_, rest) ← exactly ']' rest
    let (_, rest) ← lineEnd rest
    return (← draft.openTable path, rest)
  | text => do
    let (path, rest) ← keys text
    let (_, rest) ← exactly '=' rest
    let (found, rest) ← value nestingLimit (skipBlanks rest)
    let (_, rest) ← lineEnd rest
    return (← draft.define path found, rest)

/-- The lines of a text, of which at most `fuel` are read. -/
def linesFrom : Nat → Draft → Text → Option Draft
  | 0, _, _ => none
  | fuel + 1, draft, text =>
    match skipBlanks text with
    | [] => some draft
    | c :: rest =>
      if c = '#' ∨ c = '\n' ∨ c = '\r' then do
        let (_, rest) ← lineEnd (c :: rest)
        linesFrom fuel draft rest
      else do
        let (draft, rest) ← line draft (c :: rest)
        linesFrom fuel draft rest

/-- The text without a byte order mark. -/
def skipMark : Text → Text
  | '\ufeff' :: rest => rest
  | text => text

/-- The fields of the root table of a text. -/
def read (text : Text) : Option (List (Text × Value)) := do
  let draft ← linesFrom (text.length + 1) .start (skipMark text)
  match (← draft.close).toValue with
  | .table fields => return fields
  | _ => none

end DocTags.Toml
