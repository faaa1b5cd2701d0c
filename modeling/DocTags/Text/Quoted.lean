/-
# Quoted text

A text between double quotes on a single line of visible characters. A quote, a backslash and the
common controls take a short escape; every other character that has no visible form, or that would
merge with the one before it, is written by its code point in braces. Everything else stands for
itself.
-/

import DocTags.Text.Basic
import DocTags.Text.Extending
import DocTags.Text.Visible

namespace DocTags.Text

/-- A number in lower-case hexadecimal digits. -/
def hex (n : Nat) : Text :=
  Nat.toDigits 16 n

/-- A character written by its code point. -/
def byCodePoint (c : Char) : Text :=
  ['\\', 'u', '\x7b'] ++ hex c.toNat ++ ['\x7d']

/-- One character as it stands between double quotes. -/
def quotedChar (c : Char) : Text :=
  if c = '\x00' then ['\\', '0']
  else if c = '\t' then ['\\', 't']
  else if c = '\r' then ['\\', 'r']
  else if c = '\n' then ['\\', 'n']
  else if c = '"' then ['\\', '"']
  else if c = '\\' then ['\\', '\\']
  else if isExtending c then byCodePoint c
  else if isVisible c then [c]
  else byCodePoint c

/-- A text between double quotes. -/
def quoted (text : Text) : Text :=
  ['"'] ++ text.flatMap quotedChar ++ ['"']

end DocTags.Text
