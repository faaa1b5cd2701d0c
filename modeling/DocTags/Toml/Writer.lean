/-
# Writing TOML

A string is written in the plainest way that its characters allow: between double quotes if it
needs no escape there, then between single quotes, then between three double quotes and three single
ones, and otherwise with escapes. Between three quotes a text of several lines starts on a line of
its own. Arrays of two and more items have each item on a line of its own.
-/

import DocTags.Text.Basic

namespace DocTags.Toml

/-- Whether a character always needs an escape: the controls but the tab and the newline. -/
def needsEscape (c : Char) : Bool :=
  (c.toNat < 0x20 && c != '\t' && c != '\n') || c.toNat == 0x7f

/-- The longest run of a character, given the run that a text continues and the longest one so
far. -/
def longestRunFrom (mark : Char) (run longest : Nat) : Text → Nat
  | [] => longest
  | c :: rest =>
    if c = mark then longestRunFrom mark (run + 1) (max longest (run + 1)) rest
    else longestRunFrom mark 0 longest rest

/-- The longest run of a character in a text. -/
def longestRun (mark : Char) (text : Text) : Nat :=
  longestRunFrom mark 0 0 text

/-- A control character by the four digits of its code. -/
def controlEscape (c : Char) : Text :=
  let digits := (Nat.toDigits 16 c.toNat).map Char.toUpper
  ['\\', 'u'] ++ List.replicate (4 - digits.length) '0' ++ digits

/-- One character as it is written between double quotes if it may not be a bare quote. -/
def escapedChar (keepNewlines : Bool) (c : Char) : Text :=
  if c = '"' then ['\\', '"']
  else if c = '\x08' then ['\\', 'b']
  else if c = '\t' then ['\\', 't']
  else if c = '\n' ∧ !keepNewlines then ['\\', 'n']
  else if c = '\x0c' then ['\\', 'f']
  else if c = '\r' then ['\\', 'r']
  else if c = '\\' then ['\\', '\\']
  else if needsEscape c then controlEscape c
  else [c]

/-- The characters of a string between double quotes. A run of quotes is interrupted by an escape
when it grows longer than `quotes`; `run` is the length of the run so far. -/
def escapedFrom (quotes : Nat) (keepNewlines : Bool) (run : Nat) : Text → Text
  | [] => []
  | c :: rest =>
    if c = '"' ∧ run < quotes then '"' :: escapedFrom quotes keepNewlines (run + 1) rest
    else escapedChar keepNewlines c ++ escapedFrom quotes keepNewlines 0 rest

/-- The ways to write a string. -/
inductive Quoting where
  | basic
  | literal
  | longBasic
  | longLiteral
deriving DecidableEq

/-- The plainest way in which a text can be written. -/
def quotingOf (text : Text) : Quoting :=
  let controls := text.any needsEscape
  let backslash := text.contains '\\'
  let newline := text.contains '\n'
  if !controls && !backslash && !newline && longestRun '"' text == 0 then .basic
  else if !controls && !newline && longestRun '\'' text == 0 then .literal
  else if !controls && !backslash && longestRun '"' text ≤ 2 then .longBasic
  else if !controls && longestRun '\'' text ≤ 2 then .longLiteral
  else if newline then .longBasic
  else .basic

/-- A string in the plainest way that its characters allow. -/
def writeString (text : Text) : Text :=
  let ownLine := if text.contains '\n' then ['\n'] else []
  match quotingOf text with
  | .basic => ['"'] ++ escapedFrom 0 false 0 text ++ ['"']
  | .literal => ['\''] ++ text ++ ['\'']
  | .longBasic => ['"', '"', '"'] ++ ownLine ++ escapedFrom 2 true 0 text ++ ['"', '"', '"']
  | .longLiteral => ['\'', '\'', '\''] ++ ownLine ++ text ++ ['\'', '\'', '\'']

/-- An array of strings. -/
def writeStrings : List Text → Text
  | [] => ['[', ']']
  | [item] => ['['] ++ writeString item ++ [']']
  | items =>
    ['[', '\n'] ++ items.flatMap (fun item => [' ', ' ', ' ', ' '] ++ writeString item ++ [',', '\n'])
      ++ [']']

/-- A truth value. -/
def writeBoolean (value : Bool) : Text :=
  (if value then "true" else "false").toList

/-- A key and its value on a line. -/
def writeField (key value : Text) : Text :=
  key ++ [' ', '=', ' '] ++ value ++ ['\n']

/-- The header of a table on a line. -/
def writeHeader (key : Text) : Text :=
  ['['] ++ key ++ [']', '\n']

end DocTags.Toml
