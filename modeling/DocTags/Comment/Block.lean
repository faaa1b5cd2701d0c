/-
# Comments in source text

The doc comments of a source text, found from left to right. A comment opens at the first slash
with two asterisks that is not yet part of a comment. If a slash follows at once the comment is
complete; otherwise it ends with the first asterisk and slash after the opening. An opening that
is never closed opens nothing and is the last one: a comment that came after it would close it.
-/

import DocTags.Comment.Parse

namespace DocTags.Comment

/-- A comment of a source text and the line, counted from one, on which it opens. -/
structure Block where
  line : Nat
  text : Text
deriving DecidableEq

/-- The text up to the first closing delimiter, with it, and what follows. -/
def throughClosing : Text → Option (Text × Text)
  | [] => none
  | '*' :: '/' :: rest => some (closing, rest)
  | c :: rest => (throughClosing rest).map fun (before, after) => (c :: before, after)

/-- The comment that a text starts with, and what follows it. -/
def blockAt : Text → Option (Text × Text)
  | '/' :: '*' :: '*' :: '/' :: rest => some (opening ++ ['/'], rest)
  | '/' :: '*' :: '*' :: rest =>
    (throughClosing rest).map fun (before, after) => (opening ++ before, after)
  | _ => none

/-- A text is what stands up to its first closing delimiter and what follows. -/
theorem append_of_throughClosing {text before after : Text}
    (found : throughClosing text = some (before, after)) : before ++ after = text := by
  fun_induction throughClosing text generalizing before after with
  | case1 => simp at found
  | case2 rest =>
    simp only [Option.some.injEq, Prod.mk.injEq] at found
    simp [← found.1, ← found.2, closing]
  | case3 c rest _ ih =>
    obtain ⟨⟨first, last⟩, inner, same⟩ := Option.map_eq_some_iff.1 found
    simp only [Prod.mk.injEq] at same
    simp [← same.1, ← same.2, ih inner]

/-- A text is its first comment and what follows. -/
theorem append_of_blockAt {text block after : Text}
    (found : blockAt text = some (block, after)) : block ++ after = text := by
  fun_cases blockAt text with
  | case1 rest =>
    simp only [blockAt, Option.some.injEq, Prod.mk.injEq] at found
    simp [← found.1, ← found.2, opening]
  | case2 rest other =>
    rw [blockAt] at found
    · obtain ⟨⟨first, last⟩, inner, same⟩ := Option.map_eq_some_iff.1 found
      simp only [Prod.mk.injEq] at same
      simp [← same.1, ← same.2, opening, append_of_throughClosing inner]
    · exact other
  | case3 => simp_all [blockAt]

/-- The first comment of a text starts with the opening delimiter. -/
theorem starts_with_opening_of_blockAt {text block after : Text}
    (found : blockAt text = some (block, after)) : opening <+: block := by
  fun_cases blockAt text with
  | case1 rest =>
    simp only [blockAt, Option.some.injEq, Prod.mk.injEq] at found
    exact ⟨['/'], found.1⟩
  | case2 rest other =>
    rw [blockAt] at found
    · obtain ⟨⟨first, last⟩, _, same⟩ := Option.map_eq_some_iff.1 found
      simp only [Prod.mk.injEq] at same
      exact ⟨first, same.1⟩
    · exact other
  | case3 => simp_all [blockAt]

/-- The comments of a text whose first line has the given number. -/
def blocksFrom (line : Nat) : Text → List Block
  | [] => []
  | c :: rest =>
    match _found : blockAt (c :: rest) with
    | some (block, after) =>
      ⟨line, block⟩ :: blocksFrom (line + Text.newlines block) after
    | none =>
      if opening.isPrefixOf (c :: rest) then []
      else blocksFrom (line + Text.newlines [c]) rest
termination_by text => text.length
decreasing_by
  · have whole := congrArg List.length (append_of_blockAt _found)
    have long := (starts_with_opening_of_blockAt _found).length_le
    simp only [List.length_append] at whole
    simp only [opening, List.length_cons, List.length_nil] at long
    omega
  · simp

/-- The comments of a source text, in order. -/
def blocks (source : Text) : List Block :=
  blocksFrom 1 source

end DocTags.Comment
