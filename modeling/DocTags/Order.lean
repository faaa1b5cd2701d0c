/-
# Lexicographic order

Lists are ordered by their first difference, and a list comes before every longer one that it
begins. Texts are ordered in this way by their characters and paths by their components.
-/

namespace DocTags

/-- Whether a list comes before another one or equals it, given the order of their items. -/
def lexicographicLe {α : Type} [DecidableEq α] (le : α → α → Bool) : List α → List α → Bool
  | [], _ => true
  | _ :: _, [] => false
  | a :: s, b :: t => if a = b then lexicographicLe le s t else le a b

end DocTags
