/-
# The pattern of a comment

Doc comments are a pattern of text: the shortest comment, or else an opening delimiter, as little
of anything as will do, and a closing delimiter. A pattern matches in several ways, of which the
first is taken, and it is looked for from left to right behind what was matched before. The
comments that are found in a source text are just what this pattern finds there.

Looking for the pattern goes on behind an opening that nothing closes, where looking for comments
stops: every comment that came later would have closed it.
-/

import DocTags.Proofs.Comment.FirstBlock

namespace DocTags

/-- A pattern of text. Of two alternatives the first is preferred, and a run of anything is
preferred as short as it can be. -/
inductive Pattern where
  /-- Just this text. -/
  | exactly (text : Text)
  /-- Either pattern. -/
  | either (first second : Pattern)
  /-- One pattern and then another one. -/
  | followed (first second : Pattern)
  /-- Any text. -/
  | anything

namespace Pattern

/-- The ways to cut a text in two, shortest first part first. -/
def cuts : Text → List (Text × Text)
  | [] => [([], [])]
  | c :: rest => ([], c :: rest) :: (cuts rest).map fun (before, after) => (c :: before, after)

/-- The ways in which a pattern matches at the start of a text, in order of preference: what is
matched and what follows it. -/
def ways : Pattern → Text → List (Text × Text)
  | exactly mark, text => (mark.isPrefixOf? text).toList.map fun after => (mark, after)
  | either first second, text => first.ways text ++ second.ways text
  | followed first second, text => (first.ways text).flatMap fun (before, between) =>
    (second.ways between).map fun (behind, after) => (before ++ behind, after)
  | anything, text => cuts text

/-- What a pattern matches in a text, from left to right, without overlaps and without the empty
text. -/
def findAll (pattern : Pattern) : Text → List Text
  | [] => []
  | c :: rest =>
    match (pattern.ways (c :: rest)).head? with
    | some (found, after) =>
      if after.length ≤ rest.length then found :: findAll pattern after
      else findAll pattern rest
    | none => findAll pattern rest
termination_by text => text.length

end Pattern

namespace Comment

open Text

/-- The pattern of a doc comment. -/
def pattern : Pattern :=
  .either (.exactly shortest)
    (.followed (.exactly opening) (.followed .anything (.exactly closing)))

private theorem ways_exactly (mark rest : Text) :
    (Pattern.exactly mark).ways (mark ++ rest) = [(mark, rest)] := by
  have cut : mark.isPrefixOf? (mark ++ rest) = some rest := by simp
  rw [Pattern.ways, cut]
  rfl

private theorem ways_exactly_of_absent {mark text : Text} (absent : ¬ mark <+: text) :
    (Pattern.exactly mark).ways text = [] := by
  rw [Pattern.ways, Text.isPrefixOf?_eq_none absent]
  rfl

private theorem ways_anything_cons (next : Pattern) (c : Char) (rest : Text) :
    (Pattern.followed .anything next).ways (c :: rest) =
      next.ways (c :: rest) ++ ((Pattern.followed .anything next).ways rest).map
        fun (before, after) => (c :: before, after) := by
  simp [Pattern.ways, Pattern.cuts, List.flatMap_map, List.map_flatMap, Function.comp_def]

/-- As little of anything as will do before a closing delimiter ends at the first one. -/
theorem head?_ways_closing (text : Text) :
    ((Pattern.followed .anything (.exactly closing)).ways text).head? = throughClosing text := by
  induction text with
  | nil => rfl
  | cons c rest ih =>
      rw [ways_anything_cons]
      by_cases here : closing <+: c :: rest
      · obtain ⟨after, whole⟩ := here
        rw [← whole, ways_exactly]
        rfl
      · rw [ways_exactly_of_absent here, List.nil_append, List.head?_map, ih,
          throughClosing_cons here]

/-- The first way in which the pattern matches at the start of a text is the comment there. -/
theorem head?_ways_pattern (text : Text) : (pattern.ways text).head? = blockAt text := by
  rw [pattern, Pattern.ways]
  by_cases short : shortest <+: text
  · obtain ⟨rest, rfl⟩ := short
    rw [ways_exactly]
    rfl
  · rw [ways_exactly_of_absent short, List.nil_append, Pattern.ways]
    by_cases opens : opening <+: text
    · obtain ⟨rest, rfl⟩ := opens
      rw [ways_exactly, blockAt_opening short, ← head?_ways_closing, ← List.head?_map]
      simp
    · rw [ways_exactly_of_absent opens, blockAt_of_not_opening opens]
      rfl

/-! ## Every match in a text -/

private theorem findAll_of_none {c : Char} {rest : Text} (noBlock : blockAt (c :: rest) = none) :
    pattern.findAll (c :: rest) = pattern.findAll rest := by
  rw [Pattern.findAll, head?_ways_pattern, noBlock]

private theorem findAll_of_some {c : Char} {rest block after : Text}
    (found : blockAt (c :: rest) = some (block, after)) :
    pattern.findAll (c :: rest) = block :: pattern.findAll after := by
  have whole := congrArg List.length (append_of_blockAt found)
  have long := (starts_with_opening_of_blockAt found).length_le
  have shorter : after.length ≤ rest.length := by
    simp only [List.length_append, List.length_cons, opening, List.length_nil] at whole long
    omega
  rw [Pattern.findAll, head?_ways_pattern, found]
  exact if_pos shorter

private theorem findAll_eq_nil {text : Text} (noBlock : ∀ place, blockAt (text.drop place) = none) :
    pattern.findAll text = [] := by
  induction text with
  | nil => rw [Pattern.findAll]
  | cons c rest ih =>
      rw [findAll_of_none (noBlock 0)]
      exact ih fun place => noBlock (place + 1)

/-- No comment starts behind an opening that nothing closes: a comment further on would bring a
closing delimiter, which would close the opening as well. -/
theorem blockAt_drop_of_open {text : Text} (opens : opening <+: text)
    (noBlock : blockAt text = none) (start : Nat) : blockAt (text.drop start) = none := by
  obtain ⟨-, never⟩ := (blockAt_eq_none_iff opens).mp noBlock
  cases start with
  | zero => exact noBlock
  | succ start =>
      rw [Option.eq_none_iff_forall_ne_some]
      intro ⟨block, after⟩ found
      obtain ⟨whole, isBlock⟩ := blockAt_eq_some_iff.mp found
      obtain ⟨place, least, closes⟩ := isBlock.exists_closing
      have inside : OccursAt closing (text.drop (start + 1)) place := by
        rw [whole]
        exact (occursAt_append_right after (closes.room (by decide))).mpr closes
      have late : opening.length ≤ start + 1 + place := by
        rw [opening, List.length_cons, List.length_cons, List.length_cons, List.length_nil]
        omega
      exact never (start + 1 + place) late ((occursAt_drop (start + 1) place).mp inside)

/-- The comments of a source text are what the pattern finds there. -/
theorem findAll_pattern (line : Nat) (source : Text) :
    pattern.findAll source = (blocksFrom line source).map Block.text := by
  fun_induction blocksFrom line source with
  | case1 line => rw [Pattern.findAll, List.map_nil]
  | case2 line c rest block after found ih => rw [findAll_of_some found, ih, List.map_cons]
  | case3 line c rest noBlock opens =>
      have starts : opening <+: c :: rest := List.isPrefixOf_iff_prefix.mp opens
      exact findAll_eq_nil (blockAt_drop_of_open starts noBlock)
  | case4 line c rest noBlock opens ih => rw [findAll_of_none noBlock, ih]

end Comment

end DocTags
