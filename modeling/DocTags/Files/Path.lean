/-
# Paths

A path is kept as it was written, since it is shown that way, and is read as its components:
repeated slashes, slashes at the end and dots that stand for the same place are passed over, but
two dots are kept. Paths are equal, and one leads into another, by their components.
-/

import DocTags.Text.Basic

namespace DocTags

/-- A path as it was written. -/
structure Path where
  text : Text
deriving DecidableEq, Inhabited

/-- One component of a path. -/
inductive Component where
  | root
  | here
  | up
  | name (text : Text)
deriving DecidableEq

/-- A component as a list of numbers, so that the root comes first, then the two dotted ones, and
then the names in text order. -/
def Component.rank : Component → List Nat
  | root => [0]
  | here => [1]
  | up => [2]
  | .name text => 3 :: text.map Char.toNat

namespace Path

/-- The component that a piece between slashes stands for, if any. -/
def component? (piece : Text) : Option Component :=
  if piece = [] ∨ piece = ['.'] then none
  else if piece = ['.', '.'] then some .up
  else some (.name piece)

/-- What a path starts with: the root, a leading dot, or nothing. -/
def start (path : Path) : List Component :=
  match path.text with
  | '/' :: _ => [.root]
  | ['.'] => [.here]
  | '.' :: '/' :: _ => [.here]
  | _ => []

/-- The components of a path. -/
def components (path : Path) : List Component :=
  path.start ++ (Text.splitOn '/' path.text).filterMap component?

/-- Whether two paths have the same components. -/
def same (path other : Path) : Bool :=
  path.components == other.components

/-- Whether a path is another one or leads to it. -/
def leadsTo (path other : Path) : Bool :=
  path.components.isPrefixOf other.components

/-- Whether a path starts at the root. -/
def isAbsolute (path : Path) : Bool :=
  path.text.head? == some '/'

/-- What paths are ordered by. -/
def rank (path : Path) : List (List Nat) :=
  path.components.map Component.rank

/-- Paths are ordered component by component. -/
def le (path other : Path) : Bool :=
  lexicographicLe (lexicographicLe Nat.ble) path.rank other.rank

/-- The name that a path ends in, if it ends in one. -/
def fileName? (path : Path) : Option Text :=
  match path.components.getLast? with
  | some (.name name) => some name
  | _ => none

/-- What follows the last dot of the name that a path ends in. A dot that starts the name does
not count. -/
def extension? (path : Path) : Option Text := do
  let name ← path.fileName?
  let reversed := name.reverse
  match reversed.dropWhile (· != '.') with
  | '.' :: _ :: _ => some (reversed.takeWhile (· != '.')).reverse
  | _ => none

/-- A path, or a name, seen from another path. -/
def join (base path : Path) : Path :=
  if path.isAbsolute then path
  else if base.text = [] ∨ base.text.getLast? = some '/' then ⟨base.text ++ path.text⟩
  else ⟨base.text ++ '/' :: path.text⟩

end Path

end DocTags
