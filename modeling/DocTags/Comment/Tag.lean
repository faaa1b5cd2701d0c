/-
# Tag lines

One line of a comment is a tag when, freed of blanks at its ends and of one leading asterisk, it
starts with an at sign. The key runs up to the first space or tab, and the rest of the line,
trimmed, is the value.
-/

import DocTags.Tree.Basic

namespace DocTags

/-- A tag: its whole key and its value, which may be empty. -/
structure Tag where
  key : Text
  value : Text
deriving DecidableEq

/-- The characters trimmed at the ends of a line. -/
def isLineBlank (c : Char) : Bool :=
  c == ' ' || c == '\t' || c == '\r'

/-- The characters trimmed inside a line. -/
def isGap (c : Char) : Bool :=
  c == ' ' || c == '\t'

/-- A trimmed line without its one leading asterisk and the gaps around what follows it. -/
def withoutAsterisk : Text → Text
  | '*' :: rest => Text.trim isGap rest
  | line => line

namespace Tag

/-- The components of the key: group names first, the name of the value last. -/
def path (tag : Tag) : List Text :=
  components tag.key

/-- The tag that a line holds, if it is a tag line. -/
def ofLine? (line : Text) : Option Tag :=
  match withoutAsterisk (Text.trim isLineBlank line) with
  | '@' :: body =>
    some ⟨body.takeWhile (!isGap ·), Text.trim isGap (body.dropWhile (!isGap ·))⟩
  | _ => none

/-- The tags of the body of a comment, line by line. -/
def ofBody (body : Text) : List Tag :=
  (Text.splitOn '\n' body).filterMap ofLine?

end Tag

end DocTags
