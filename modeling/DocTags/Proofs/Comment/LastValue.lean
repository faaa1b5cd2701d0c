/-
# The last value wins

What the tree of a comment holds under a key is decided by the tags of the body alone: the value
of the last tag with exactly that key, and nothing when no tag has it. This holds for every key,
with any hyphens, since insertion changes what is found under its own key and under no other.
-/

import DocTags.Proofs.Comment.Envelope
import DocTags.Proofs.Tree.Lookup

namespace DocTags

namespace Tag

/-- The value of the last of some tags that has a key. -/
def lastValue? (key : Text) (tags : List Tag) : Option Text :=
  (tags.reverse.find? (·.key = key)).map Tag.value

theorem lastValue?_cons (key : Text) (tag : Tag) (tags : List Tag) :
    lastValue? key (tag :: tags) =
      (lastValue? key tags).or (if tag.key = key then some tag.value else none) := by
  rw [lastValue?, lastValue?, List.reverse_cons, List.find?_append, Option.map_or]
  by_cases same : tag.key = key <;> simp [same]

theorem lastValue?_append (key : Text) (first second : List Tag) :
    lastValue? key (first ++ second) = (lastValue? key second).or (lastValue? key first) := by
  rw [lastValue?, lastValue?, lastValue?, List.reverse_append, List.find?_append, Option.map_or]

theorem lastValue?_eq_none_iff {key : Text} {tags : List Tag} :
    lastValue? key tags = none ↔ ∀ tag ∈ tags, tag.key ≠ key := by
  simp [lastValue?]

/-- A last value is the value of a tag behind which no tag has the key. -/
theorem lastValue?_eq_some_iff {key value : Text} {tags : List Tag} :
    lastValue? key tags = some value ↔
      ∃ before after, tags = before ++ ⟨key, value⟩ :: after ∧ ∀ tag ∈ after, tag.key ≠ key := by
  refine ⟨fun found => ?_, fun ⟨before, after, cut, others⟩ => ?_⟩
  · obtain ⟨tag, last, rfl⟩ := Option.map_eq_some_iff.mp found
    obtain ⟨same, after, before, cut, others⟩ := List.find?_eq_some_iff_append.mp last
    have same : tag.key = key := by simpa using same
    subst same
    refine ⟨before.reverse, after.reverse, ?_, fun other member => ?_⟩
    · simpa using congrArg List.reverse cut
    · simpa using others other (List.mem_reverse.mp member)
  · rw [cut, lastValue?_append, lastValue?_cons, lastValue?_eq_none_iff.mpr others]
    simp

end Tag

namespace Comment

/-- Behind a run of tags the last tag with a key decides, and without one the tree before it. -/
theorem lookup_foldl_insert (tags : List Tag) (key : Text) (tree : Tree) :
    (tags.foldl (fun tree tag => tree.insert tag.key tag.value) tree).lookup key =
      (Tag.lastValue? key tags).or (tree.lookup key) := by
  induction tags generalizing tree with
  | nil => rfl
  | cons tag tags ih =>
      rw [List.foldl_cons, ih, Tree.lookup_insert, Tag.lastValue?_cons, Option.or_assoc]
      by_cases same : tag.key = key
      · simp [same]
      · simp [same, Ne.symm same]

/-- The tree of some tags holds their last values. -/
theorem lookup_treeOf (tags : List Tag) (key : Text) :
    (treeOf tags).lookup key = Tag.lastValue? key tags := by
  rw [treeOf, lookup_foldl_insert, Tree.lookup_empty, Option.or_none]

/-- **Parsing.** A text parses exactly when it has both delimiters, and the first one that it
lacks is reported otherwise. There is then exactly one text that it holds between them, and under
every key the tree has the value of the last tag of that body with just this key, or nothing when
no tag of the body has it. -/
theorem parse_last_value_wins (text : Text) :
    ((∃ tree, parse text = .ok tree) ↔ opening <+: text ∧ closing <:+ text) ∧
      (parse text = .error .noOpening ↔ ¬ opening <+: text) ∧
      (parse text = .error .noClosing ↔ opening <+: text ∧ ¬ closing <:+ text) ∧
      ∀ tree, parse text = .ok tree →
        ∃ inner, (∀ other, Holds text other ↔ other = inner) ∧
          ∀ key,
            (∀ value, tree.lookup key = some value ↔
              ∃ before after, Tag.ofBody inner = before ++ ⟨key, value⟩ :: after ∧
                ∀ tag ∈ after, tag.key ≠ key) ∧
            (tree.lookup key = none ↔ ∀ tag ∈ Tag.ofBody inner, tag.key ≠ key) := by
  by_cases starts : opening <+: text
  · by_cases ends : closing <:+ text
    · obtain ⟨inner, holds, read⟩ := exists_body starts ends
      have parsed : parse text = .ok (treeOf (Tag.ofBody inner)) :=
        parse_eq_ok_iff.mpr ⟨inner, read, rfl⟩
      refine ⟨by simp [parsed, starts, ends], by simp [parsed, starts],
        by simp [parsed, ends], fun tree success => ?_⟩
      obtain rfl := Except.ok.inj (parsed.symm.trans success)
      refine ⟨inner, fun other => ⟨fun others => others.unique holds, ?_⟩, fun key => ?_⟩
      · intro same
        rwa [same]
      · rw [lookup_treeOf]
        exact ⟨fun value => Tag.lastValue?_eq_some_iff, Tag.lastValue?_eq_none_iff⟩
    · have refused : parse text = .error .noClosing := by
        rw [parse, body_of_not_closing starts ends]
        rfl
      simp [refused, starts, ends]
  · have refused : parse text = .error .noOpening := by
      rw [parse, body_of_not_opening starts]
      rfl
    simp [refused, starts]

/-- A repeated key beside keys that it begins: the last value is found, and an empty component
leads elsewhere. -/
theorem parse_last_value_wins_of_repeated_key :
    ∃ tree, parse "/**\n@a 1\n * @a-b 2\n@a\t3*/".toList = .ok tree ∧
      tree.lookup ['a'] = some ['3'] ∧ tree.lookup ['a', '-'] = none := by
  have parsing := parse_last_value_wins "/**\n@a 1\n * @a-b 2\n@a\t3*/".toList
  obtain ⟨tree, success⟩ := parsing.1.mpr ⟨by decide, by decide⟩
  obtain ⟨inner, only, found⟩ := parsing.2.2.2 tree success
  obtain rfl := (only "\n@a 1\n * @a-b 2\n@a\t3".toList).mp (by decide)
  refine ⟨tree, success, ?_, ?_⟩
  · exact ((found ['a']).1 ['3']).mpr
      ⟨[⟨['a'], ['1']⟩, ⟨['a', '-', 'b'], ['2']⟩], [], by decide, by decide⟩
  · exact (found ['a', '-']).2.mpr (by decide)

end Comment

end DocTags
