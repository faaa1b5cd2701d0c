/-
# Doc comments

A doc comment starts with a slash and two asterisks and ends with an asterisk and a slash; the
shortest one lets the two share an asterisk. Its tree holds the tags of the lines between, each
set in the order of the document, so that the last of several tags with one key wins.
-/

import DocTags.Comment.Tag
import DocTags.Text.Blank

namespace DocTags.Comment

/-- What a comment starts with. -/
def opening : Text :=
  ['/', '*', '*']

/-- What a comment ends with. -/
def closing : Text :=
  ['*', '/']

/-- The delimiter that a text lacks to be a comment. -/
inductive Malformed where
  | noOpening
  | noClosing
deriving DecidableEq

/-- The missing delimiter in words. -/
def Malformed.message : Malformed → Text
  | noOpening => "expected `".toList ++ opening ++ "` at start".toList
  | noClosing => "expected `".toList ++ closing ++ "` at end".toList

/-- The text between the delimiters of a comment, empty where they share an asterisk. -/
def body (text : Text) : Except Malformed Text :=
  match opening.isPrefixOf? text with
  | none => .error .noOpening
  | some rest =>
    if closing.isSuffixOf text then .ok ((closing.isSuffixOf? rest).getD [])
    else .error .noClosing

/-- The tree of a list of tags, set one after the other. -/
def treeOf (tags : List Tag) : Tree :=
  tags.foldl (fun tree tag => tree.insert tag.key tag.value) Tree.empty

/-- The tree of a comment. -/
def parse (text : Text) : Except Malformed Tree := do
  let inner ← body text
  return treeOf (Tag.ofBody inner)

/-- The tree of a comment that may have blank characters around it. -/
def parseTrimmed (text : Text) : Except Malformed Tree :=
  parse (Text.trim Text.isBlank text)

end DocTags.Comment
