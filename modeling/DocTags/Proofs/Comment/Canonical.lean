/-
# The canonical comment of a tree

The entries of a tree, set on the lines of a comment in their order, one line for each. Read again,
the canonical comment of a parsed tree gives this tree with every order kept: its entries are tags
of the body that it was parsed from, so that lines can hold them, and inserting them in their order
rebuilds the tree.
-/

import DocTags.Proofs.Comment.LastValue
import DocTags.Proofs.Comment.Layout
import DocTags.Proofs.Tree.Rebuild

namespace DocTags

namespace Tree

/-- The entries of a tree as tags. -/
def tags (tree : Tree) : List Tag :=
  tree.entries.map fun (key, value) => ⟨key, value⟩

/-- The comment with one line for each entry: an at sign and the key, and the value behind a space
unless it is empty. -/
def canonical (tree : Tree) : Text :=
  Comment.layout (tree.tags.map Tag.line)

theorem treeOf_tags (tree : Tree) : Comment.treeOf tree.tags = ofEntries tree.entries := by
  rw [Comment.treeOf, tags, List.foldl_map]
  rfl

end Tree

namespace Comment

theorem wellNamed_treeOf (tags : List Tag) : (treeOf tags).WellNamed :=
  List.foldlRecOn tags _ .empty fun _ named tag _ => named.insert tag.key tag.value

/-- The tags that a tree was made of contain its entries. -/
theorem tags_treeOf_subset (tags : List Tag) : (treeOf tags).tags ⊆ tags := by
  intro tag member
  obtain ⟨⟨key, value⟩, inEntries, rfl⟩ := List.mem_map.mp member
  have found := ((wellNamed_treeOf tags).mem_entries_iff key value).mp inEntries
  rw [lookup_treeOf] at found
  obtain ⟨before, after, cut, -⟩ := Tag.lastValue?_eq_some_iff.mp found
  rw [cut]
  exact List.mem_append_right before List.mem_cons_self

/-- Lines can hold the entries of a parsed tree. -/
theorem isWritable_of_mem_tags {text : Text} {tree : Tree} (parsed : parse text = .ok tree)
    {tag : Tag} (member : tag ∈ tree.tags) : tag.IsWritable := by
  obtain ⟨inner, -, rfl⟩ := parse_eq_ok_iff.mp parsed
  exact Tag.isWritable_of_mem_ofBody (tags_treeOf_subset _ member)

/-- A parsed tree is the tree of its entries. -/
theorem treeOf_tags_of_parse {text : Text} {tree : Tree} (parsed : parse text = .ok tree) :
    treeOf tree.tags = tree := by
  calc
    treeOf tree.tags = Tree.ofEntries tree.entries := tree.treeOf_tags
    _ = tree.prune := (Tree.Reachable.parsed parsed).wellNamed.ofEntries_entries_eq_prune
    _ = tree := Tree.prune_eq_self (Tree.Inserted.parsed parsed).not_hasBareGroup

/-- **Canonical comments.** The canonical comment of a parsed tree parses, it gives the same tree
with every order kept, and the canonical comment of that tree is the same text. -/
theorem parse_canonical {text : Text} {tree : Tree} (parsed : parse text = .ok tree) :
    ∃ again, parse tree.canonical = .ok again ∧ again = tree ∧
      again.canonical = tree.canonical := by
  have writable : ∀ tag ∈ tree.tags, tag.IsWritable := fun _ => isWritable_of_mem_tags parsed
  have read : parse tree.canonical = .ok tree := by
    rw [Tree.canonical, parse_layout_lines writable, treeOf_tags_of_parse parsed]
  exact ⟨tree, read, rfl, rfl⟩

/-- A repeated key with a carriage return, an empty component, an empty value and gaps that are not
kept. -/
theorem parse_canonical_of_returns :
    ∃ tree, parse "/**\n@b-x\r 1\n * @a\t\tv  w\r\n@b-\n@b-x\r  2*/".toList = .ok tree ∧
      tree.canonical = "/**\n * @a v  w\n * @b-x\r 2\n * @b-\n */".toList ∧
      ∃ again, parse tree.canonical = .ok again ∧ again = tree ∧
        again.canonical = tree.canonical := by
  have whole : "/**\n@b-x\r 1\n * @a\t\tv  w\r\n@b-\n@b-x\r  2*/".toList =
      opening ++ "\n@b-x\r 1\n * @a\t\tv  w\r\n@b-\n@b-x\r  2".toList ++ closing := by
    decide
  have tags : Tag.ofBody "\n@b-x\r 1\n * @a\t\tv  w\r\n@b-\n@b-x\r  2".toList =
      [⟨"b-x\r".toList, ['1']⟩, ⟨['a'], "v  w".toList⟩, ⟨['b', '-'], []⟩,
        ⟨"b-x\r".toList, ['2']⟩] := by
    decide
  have read := body_enclosed "\n@b-x\r 1\n * @a\t\tv  w\r\n@b-\n@b-x\r  2".toList
  rw [← whole] at read
  have parsed := parse_eq_ok_iff.mpr ⟨_, read, congrArg treeOf tags⟩
  exact ⟨_, parsed, by decide, parse_canonical parsed⟩

end Comment

end DocTags
