/-
# The flat format is read back

In the flat format every value of a tree is a line of its whole key, an equals sign and the value.
The keys and the values of a parsed tree hold no newlines, so that the lines of the text are just
the lines of its values. A line does not tell an equals sign of the key from the one behind it;
where no key holds one, every line is cut at its first equals sign into the key and the value,
whatever equals signs the value holds, and the pairs rebuild the tree with every order.
-/

import DocTags.Proofs.Comment.Canonical
import DocTags.Scan.Render

namespace DocTags

open Text

namespace Tree

/-- A text read as the flat format: every line is cut at its first equals sign. -/
def readFlat? (text : Text) : Option (List (Text × Text)) :=
  (splitOn '\n' text).mapM (cutAt? ['='])

/-- A line is cut behind its key if the key has no equals sign. -/
theorem cutAt?_flatLine {key : Text} (plain : '=' ∉ key) (value : Text) :
    cutAt? ['='] (flatLine (key, value)) = some (key, value) := by
  induction key with
  | nil => rfl
  | cons c key ih =>
      simp only [List.mem_cons, not_or] at plain
      have later : ['='].isPrefixOf? (c :: (key ++ '=' :: value)) = none := by
        simp [List.isPrefixOf?, plain.1]
      rw [flatLine] at ih ⊢
      rw [List.cons_append, cutAt?, later]
      simp [ih plain.2]

/-- The lines of some pairs give these pairs if no key has an equals sign. -/
theorem mapM_cutAt?_flatLine {pairs : List (Text × Text)}
    (plain : ∀ key ∈ Assoc.names pairs, '=' ∉ key) :
    (pairs.map flatLine).mapM (cutAt? ['=']) = some pairs := by
  induction pairs with
  | nil => rfl
  | cons pair pairs ih =>
      obtain ⟨first, rest⟩ := List.forall_mem_cons.mp plain
      rw [List.map_cons, List.mapM_cons, cutAt?_flatLine first, ih rest]
      rfl

variable {text : Text} {tree : Tree}

/-- A parsed tree is rebuilt from its entries. -/
theorem ofEntries_entries_of_parse (parsed : Comment.parse text = .ok tree) :
    ofEntries tree.entries = tree := by
  rw [← tree.treeOf_tags]
  exact Comment.treeOf_tags_of_parse parsed

/-- The line of a value of a parsed tree holds no newline. -/
theorem newline_not_mem_flatLine (parsed : Comment.parse text = .ok tree) {pair : Text × Text}
    (member : pair ∈ tree.entries) : '\n' ∉ flatLine pair := by
  have writable : Tag.IsWritable ⟨pair.1, pair.2⟩ :=
    Comment.isWritable_of_mem_tags parsed (List.mem_map_of_mem member)
  have noKey : '\n' ∉ pair.1 := writable.key.not_mem (by decide)
  have noValue : '\n' ∉ pair.2 := writable.value
  simp [flatLine, noKey, noValue]

/-- The lines of a parsed tree in the flat format are those of its values. -/
theorem splitOn_flat (parsed : Comment.parse text = .ok tree) (filled : tree.isEmpty = false) :
    splitOn '\n' tree.flat = tree.entries.map flatLine := by
  have valued : tree.entries ≠ [] := by
    intro none
    have rebuilt := ofEntries_entries_of_parse parsed
    rw [none] at rebuilt
    rw [← rebuilt] at filled
    cases filled
  refine splitOn_joinWith (by simpa using valued) fun line member => ?_
  obtain ⟨pair, inEntries, rfl⟩ := List.mem_map.mp member
  exact newline_not_mem_flatLine parsed inEntries

/-- **Flat format.** The text of a parsed tree with values has one line for each entry, in their
order: the key, an equals sign, and the value. If no key has an equals sign, the entries are read
back from the text, and inserted in order they give the same tree with every order kept. -/
theorem readFlat?_render (parsed : Comment.parse text = .ok tree) (filled : tree.isEmpty = false)
    (label : Text) :
    splitOn '\n' (tree.render label .flat) =
        tree.entries.map (fun (key, value) => key ++ '=' :: value) ∧
      ((∀ key ∈ Assoc.names tree.entries, '=' ∉ key) →
        readFlat? (tree.render label .flat) = some tree.entries ∧
          (readFlat? (tree.render label .flat)).map ofEntries = some tree) := by
  have lines : splitOn '\n' (tree.render label .flat) = tree.entries.map flatLine :=
    splitOn_flat parsed filled
  refine ⟨lines, fun plain => ?_⟩
  have read : readFlat? (tree.render label .flat) = some tree.entries := by
    rw [readFlat?, lines, mapM_cutAt?_flatLine plain]
  refine ⟨read, ?_⟩
  rw [read, Option.map_some, ofEntries_entries_of_parse parsed]

/-- A value of equals signs, one that starts with them, and a tag without key and value. -/
theorem readFlat?_render_of_equals :
    ∃ tree, Comment.parse "/**\n * @c-d ==\n * @\n * @c =x\n*/".toList = .ok tree ∧
      tree.render [] .flat = "=\nc==x\nc-d===".toList ∧
      readFlat? "=\nc==x\nc-d===".toList =
        some [([], []), (['c'], ['=', 'x']), (['c', '-', 'd'], ['=', '='])] ∧
      (readFlat? "=\nc==x\nc-d===".toList).map ofEntries = some tree := by
  have whole : "/**\n * @c-d ==\n * @\n * @c =x\n*/".toList =
      Comment.opening ++ "\n * @c-d ==\n * @\n * @c =x\n".toList ++ Comment.closing := by
    decide
  have tags : Tag.ofBody "\n * @c-d ==\n * @\n * @c =x\n".toList =
      [⟨['c', '-', 'd'], ['=', '=']⟩, ⟨[], []⟩, ⟨['c'], ['=', 'x']⟩] := by
    decide
  have parsed : Comment.parse "/**\n * @c-d ==\n * @\n * @c =x\n*/".toList = .ok _ :=
    Comment.parse_eq_ok_iff.mpr ⟨_, whole ▸ Comment.body_enclosed _, congrArg Comment.treeOf tags⟩
  obtain ⟨-, reads⟩ := readFlat?_render parsed (by decide) []
  obtain ⟨entries, again⟩ := reads (by decide)
  exact ⟨_, parsed, by decide, entries, again⟩

end Tree

end DocTags
