/-
# Writing JSON

JSON values whose objects keep the order of their fields, and the two ways in which they are
written: without any blanks, and with one field or item to a line, indented by two spaces a level.
In strings a quote, a backslash and the controls below the space are escaped, by a letter where
there is one and by four digits otherwise; all other characters stand for themselves.
-/

import DocTags.Text.Basic

namespace DocTags

/-- A JSON value of the kinds that are written here. -/
inductive Json where
  | number (value : Nat)
  | str (value : Text)
  | array (items : List Json)
  | object (fields : List (Text × Json))

namespace Json

/-- A control character by the four digits of its code. -/
def controlEscape (c : Char) : Text :=
  let digits := Nat.toDigits 16 c.toNat
  ['\\', 'u'] ++ List.replicate (4 - digits.length) '0' ++ digits

/-- One character of a string. -/
def stringChar (c : Char) : Text :=
  if c = '"' then ['\\', '"']
  else if c = '\\' then ['\\', '\\']
  else if c = '\x08' then ['\\', 'b']
  else if c = '\x0c' then ['\\', 'f']
  else if c = '\n' then ['\\', 'n']
  else if c = '\r' then ['\\', 'r']
  else if c = '\t' then ['\\', 't']
  else if c.toNat < 0x20 then controlEscape c
  else [c]

/-- A string with its quotes. -/
def string (value : Text) : Text :=
  ['"'] ++ value.flatMap stringChar ++ ['"']

/-- The comma after an item that is not the last. -/
def comma (last : Bool) : Text :=
  if last then [] else [',']

mutual

/-- A value without blanks, in front of a text. -/
def compactBefore (rest : Text) : Json → Text
  | number value => Text.ofNat value ++ rest
  | str value => string value ++ rest
  | array items => '[' :: compactItemsBefore (']' :: rest) items
  | object fields => '\x7b' :: compactFieldsBefore ('\x7d' :: rest) fields

/-- The items of an array without blanks, in front of a text. -/
def compactItemsBefore (rest : Text) : List Json → Text
  | [] => rest
  | item :: items =>
    compactBefore (comma items.isEmpty ++ compactItemsBefore rest items) item

/-- The fields of an object without blanks, in front of a text. -/
def compactFieldsBefore (rest : Text) : List (Text × Json) → Text
  | [] => rest
  | (name, value) :: fields =>
    string name ++ ':' ::
      compactBefore (comma fields.isEmpty ++ compactFieldsBefore rest fields) value

end

/-- A value without blanks. -/
def compact (json : Json) : Text :=
  compactBefore [] json

/-- A new line at a level of indentation. -/
def newLine (level : Nat) : Text :=
  '\n' :: List.replicate (2 * level) ' '

/-- The new line before a closing bracket, which an empty array or object does without. -/
def closingLine (level : Nat) (empty : Bool) : Text :=
  if empty then [] else newLine level

mutual

/-- A value over several lines, which is itself at a level of indentation, in front of a text. -/
def prettyBefore (level : Nat) (rest : Text) : Json → Text
  | number value => Text.ofNat value ++ rest
  | str value => string value ++ rest
  | array items =>
    '[' :: prettyItemsBefore (level + 1) (closingLine level items.isEmpty ++ ']' :: rest) items
  | object fields =>
    '\x7b' ::
      prettyFieldsBefore (level + 1) (closingLine level fields.isEmpty ++ '\x7d' :: rest) fields

/-- The items of an array, each on a line of its own, in front of a text. -/
def prettyItemsBefore (level : Nat) (rest : Text) : List Json → Text
  | [] => rest
  | item :: items =>
    newLine level ++
      prettyBefore level (comma items.isEmpty ++ prettyItemsBefore level rest items) item

/-- The fields of an object, each on a line of its own, in front of a text. -/
def prettyFieldsBefore (level : Nat) (rest : Text) : List (Text × Json) → Text
  | [] => rest
  | (name, value) :: fields =>
    newLine level ++ (string name ++ ':' :: ' ' ::
      prettyBefore level (comma fields.isEmpty ++ prettyFieldsBefore level rest fields) value)

end

/-- A value over several lines. -/
def pretty (json : Json) : Text :=
  prettyBefore 0 [] json

end Json

end DocTags
