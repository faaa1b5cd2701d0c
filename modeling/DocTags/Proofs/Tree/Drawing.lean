/-
# What a drawing shows

The drawing of a tree has one line for each value and each group. The columns of a line tell its
level, and what stands behind them whether it is a value or a group: names of a parsed tree have no
space, and a value has one behind its name. So the lines give back the tree, level by level: the
lines of a group are those that start with a trunk, up to the next branch.

In a parsed tree the last line is that of a value and ends with a quote, so that nothing but the
last newline is trimmed at the end of the drawing.
-/

import DocTags.Proofs.Comment.Canonical
import DocTags.Proofs.Text.Quoted
import DocTags.Proofs.Text.Trimming
import DocTags.Proofs.Tree.Names
import DocTags.Scan.Render
import Mathlib.Data.List.Forall2

namespace DocTags.Tree

open Text

/-! ## Rows -/

/-- What a line of a drawing shows. -/
inductive Item where
  | value (name content : Text)
  | group (name : Text)

/-- An item without the columns before it. -/
def Item.caption : Item → Text
  | .value name content => name ++ [' ', '=', ' '] ++ quoted content
  | .group name => name

/-- An item and the number of groups that it stands in. -/
structure Row where
  depth : Nat
  item : Item

/-- A row seen from outside the group that it stands in. -/
def Row.deeper (row : Row) : Row :=
  ⟨row.depth + 1, row.item⟩

mutual

/-- The values and groups of a tree: the values of a node before its groups, and each group before
what it holds. -/
def rows : Tree → List Row
  | node values groups =>
    values.map (fun (name, content) => ⟨0, .value name content⟩) ++ groupRows groups

/-- Some groups and what they hold. -/
def groupRows : List (Text × Tree) → List Row
  | [] => []
  | (name, group) :: rest =>
    (⟨0, .group name⟩ :: (rows group).map Row.deeper) ++ groupRows rest

end

/-- A line shows a row when the caption stands there behind a branch, and before that a trunk for
each group around the item. -/
def Row.ShownBy (row : Row) (line : Text) : Prop :=
  ∃ (trunks : List Bool) (last : Bool), trunks.length = row.depth ∧
    line = trunks.flatMap trunk ++ branch last ++ row.item.caption

/-- A row is shown from outside its group behind one more trunk. -/
theorem Row.ShownBy.deeper {row : Row} {line : Text} (shown : row.ShownBy line) (last : Bool) :
    row.deeper.ShownBy (trunk last ++ line) := by
  obtain ⟨trunks, final, length, rfl⟩ := shown
  refine ⟨last :: trunks, final, congrArg (· + 1) length, ?_⟩
  simp [Row.deeper]

theorem valueLines_shown (more : Bool) (values : List (Text × Text)) :
    List.Forall₂ Row.ShownBy (values.map fun (name, content) => ⟨0, .value name content⟩)
      (valueLines more values) := by
  induction values with
  | nil => exact .nil
  | cons pair rest ih =>
      obtain ⟨name, content⟩ := pair
      refine .cons ⟨[], rest.isEmpty && !more, rfl, ?_⟩ ih
      simp [Item.caption]

theorem groupLines_shown {groups : List (Text × Tree)}
    (inside : ∀ name group, (name, group) ∈ groups →
      List.Forall₂ Row.ShownBy group.rows group.lines) :
    List.Forall₂ Row.ShownBy (groupRows groups) (groupLines groups) := by
  induction groups with
  | nil =>
      rw [groupRows, groupLines]
      exact .nil
  | cons pair rest ih =>
      obtain ⟨name, group⟩ := pair
      have below : List.Forall₂ Row.ShownBy (group.rows.map Row.deeper)
          (group.lines.map (trunk rest.isEmpty ++ ·)) := by
        rw [List.forall₂_map_left_iff, List.forall₂_map_right_iff]
        exact (inside name group List.mem_cons_self).imp fun _ _ shown => shown.deeper _
      rw [groupRows, groupLines]
      refine List.rel_append (.cons ⟨[], rest.isEmpty, rfl, rfl⟩ below) ?_
      exact ih fun other later member => inside other later (List.mem_cons_of_mem _ member)

/-- The lines of a tree show its rows, each line one row. -/
theorem lines_shown (tree : Tree) : List.Forall₂ Row.ShownBy tree.rows tree.lines := by
  induction tree with
  | node values groups ih =>
      rw [rows, lines]
      exact List.rel_append (valueLines_shown _ values) (groupLines_shown ih)

/-! ## Columns -/

/-- Whether a line starts with a trunk. -/
def isBelow (line : Text) : Bool :=
  line.head? == some '│' || line.head? == some ' '

theorem isBelow_trunk (last : Bool) (line : Text) : isBelow (trunk last ++ line) = true := by
  cases last <;> rfl

theorem isBelow_branch (last : Bool) (caption : Text) :
    isBelow (branch last ++ caption) = false := by
  cases last <;> rfl

/-- Whether a line has a space behind its first four columns. -/
def hasGap (line : Text) : Bool :=
  (line.drop 4).contains ' '

theorem hasGap_branch (last : Bool) (caption : Text) :
    hasGap (branch last ++ caption) = caption.contains ' ' := by
  cases last <;> rfl

theorem branch_append_inj {last otherLast : Bool} {caption other : Text}
    (same : branch last ++ caption = branch otherLast ++ other) :
    last = otherLast ∧ caption = other := by
  cases last <;> cases otherLast <;> simp_all [branch]

theorem newline_not_mem_branch (last : Bool) : '\n' ∉ branch last := by
  cases last <;> decide

theorem newline_not_mem_trunk (last : Bool) : '\n' ∉ trunk last := by
  cases last <;> decide

/-! ## Lines of values and of groups -/

theorem mem_valueLines {more : Bool} {values : List (Text × Text)} {line : Text}
    (member : line ∈ valueLines more values) :
    ∃ name content last, (name, content) ∈ values ∧
      line = branch last ++ (name ++ [' ', '=', ' '] ++ quoted content) := by
  induction values with
  | nil => cases member
  | cons pair rest ih =>
      obtain ⟨name, content⟩ := pair
      rcases List.mem_cons.mp member with here | later
      · refine ⟨name, content, rest.isEmpty && !more, List.mem_cons_self, ?_⟩
        simp [here]
      · obtain ⟨other, value, last, inRest, written⟩ := ih later
        exact ⟨other, value, last, List.mem_cons_of_mem _ inRest, written⟩

theorem mem_groupLines {groups : List (Text × Tree)} {line : Text}
    (member : line ∈ groupLines groups) :
    ∃ name group last, (name, group) ∈ groups ∧
      (line = branch last ++ name ∨ ∃ inner ∈ group.lines, line = trunk last ++ inner) := by
  induction groups with
  | nil =>
      rw [groupLines] at member
      cases member
  | cons pair rest ih =>
      obtain ⟨name, group⟩ := pair
      rw [groupLines, List.mem_append, List.mem_cons, List.mem_map] at member
      rcases member with (here | ⟨inner, below, same⟩) | later
      · exact ⟨name, group, rest.isEmpty, List.mem_cons_self, Or.inl here⟩
      · exact ⟨name, group, rest.isEmpty, List.mem_cons_self, Or.inr ⟨inner, below, same.symm⟩⟩
      · obtain ⟨other, tree, last, inRest, written⟩ := ih later
        exact ⟨other, tree, last, List.mem_cons_of_mem _ inRest, written⟩

/-- The lines of some groups start with a branch and a name. -/
theorem head?_groupLines {groups : List (Text × Tree)} {line : Text}
    (first : (groupLines groups).head? = some line) :
    ∃ name last, name ∈ Assoc.names groups ∧ line = branch last ++ name := by
  cases groups with
  | nil =>
      rw [groupLines] at first
      cases first
  | cons pair rest =>
      obtain ⟨name, group⟩ := pair
      rw [groupLines] at first
      exact ⟨name, rest.isEmpty, List.mem_cons_self, (Option.some.inj first).symm⟩

/-- No line of a drawing holds a newline if no name does. -/
theorem newline_not_mem_lines {tree : Tree} (names : NamesAll Tag.IsUnbroken tree) :
    ∀ line ∈ tree.lines, '\n' ∉ line := by
  induction names with
  | @node values groups ofValues ofGroups _ ih =>
      intro line member
      rw [lines, List.mem_append] at member
      rcases member with ofValue | ofGroup
      · obtain ⟨name, content, last, inValues, rfl⟩ := mem_valueLines ofValue
        have noName : '\n' ∉ name :=
          (ofValues name (List.mem_map_of_mem inValues)).not_mem (by decide)
        simp [newline_not_mem_branch, noName, newline_not_mem_quoted]
      · obtain ⟨name, group, last, inGroups, rfl | ⟨inner, below, rfl⟩⟩ := mem_groupLines ofGroup
        · have noName : '\n' ∉ name :=
            (ofGroups name (List.mem_map_of_mem inGroups)).not_mem (by decide)
          simp [newline_not_mem_branch, noName]
        · simp [newline_not_mem_trunk, ih name group inGroups inner below]

/-! ## The tree read off its lines -/

/-- The caption of a value gives back its name, which has no space, and its content. -/
theorem value_caption_inj {name other content otherContent : Text} (unbroken : Tag.IsUnbroken name)
    (otherUnbroken : Tag.IsUnbroken other)
    (same : name ++ [' ', '=', ' '] ++ quoted content =
      other ++ [' ', '=', ' '] ++ quoted otherContent) :
    name = other ∧ content = otherContent := by
  have noSpace {text : Text} (plain : Tag.IsUnbroken text) :
      ∀ c ∈ text, decide (c ≠ ' ') = true := by
    intro c member
    apply decide_eq_true
    rintro rfl
    exact plain.not_mem (by decide) member
  have space (content : Text) : ∀ c, ([' ', '=', ' '] ++ quoted content).head? = some c →
      decide (c ≠ ' ') = false := by
    intro c first
    obtain rfl := Option.some.inj first
    rfl
  rw [List.append_assoc, List.append_assoc] at same
  obtain ⟨names, rest⟩ := append_inj_of_boundary (noSpace unbroken) (space content)
    (noSpace otherUnbroken) (space otherContent) same
  exact ⟨names, quoted_injective (List.append_cancel_left rest)⟩

/-- The lines of values give back the values. -/
theorem valueLines_inj {more otherMore : Bool} {values others : List (Text × Text)}
    (names : ∀ name ∈ Assoc.names values, Tag.IsUnbroken name)
    (otherNames : ∀ name ∈ Assoc.names others, Tag.IsUnbroken name)
    (same : valueLines more values = valueLines otherMore others) : values = others := by
  induction values generalizing others with
  | nil =>
      cases others with
      | nil => rfl
      | cons pair rest => cases same
  | cons pair rest ih =>
      cases others with
      | nil => cases same
      | cons otherPair otherRest =>
          obtain ⟨name, content⟩ := pair
          obtain ⟨other, otherContent⟩ := otherPair
          obtain ⟨first, later⟩ := List.forall_mem_cons.mp names
          obtain ⟨otherFirst, otherLater⟩ := List.forall_mem_cons.mp otherNames
          obtain ⟨heads, tails⟩ := List.cons.inj same
          simp only [List.append_assoc] at heads
          have captions := (branch_append_inj heads).2
          obtain ⟨rfl, rfl⟩ := value_caption_inj first otherFirst (by simpa using captions)
          rw [ih later otherLater tails]

/-- The lines of groups give back the groups if the lines of each group give back that group: up to
the next branch the lines are those of one group, behind its trunk. -/
theorem groupLines_inj {groups others : List (Text × Tree)}
    (below : ∀ name group, (name, group) ∈ groups →
      ∀ other, NamesAll Tag.IsUnbroken other → group.lines = other.lines → group = other)
    (otherBelow : ∀ name other, (name, other) ∈ others → NamesAll Tag.IsUnbroken other)
    (same : groupLines groups = groupLines others) : groups = others := by
  induction groups generalizing others with
  | nil =>
      cases others with
      | nil => rfl
      | cons pair rest => simp [groupLines] at same
  | cons pair rest ih =>
      cases others with
      | nil => simp [groupLines] at same
      | cons otherPair otherRest =>
          obtain ⟨name, group⟩ := pair
          obtain ⟨otherName, other⟩ := otherPair
          simp only [groupLines, List.cons_append, List.cons.injEq] at same
          obtain ⟨heads, tails⟩ := same
          obtain ⟨lasts, rfl⟩ := branch_append_inj heads
          rw [← lasts] at tails
          have trunks (lines : List Text) :
              ∀ line ∈ lines.map (trunk rest.isEmpty ++ ·), isBelow line = true := by
            intro line member
            obtain ⟨inner, -, rfl⟩ := List.mem_map.mp member
            exact isBelow_trunk _ inner
          have branches (groups : List (Text × Tree)) :
              ∀ line, (groupLines groups).head? = some line → isBelow line = false := by
            intro line first
            obtain ⟨name, last, -, rfl⟩ := head?_groupLines first
            exact isBelow_branch last name
          obtain ⟨inner, later⟩ := append_inj_of_boundary (trunks group.lines) (branches rest)
            (trunks other.lines) (branches otherRest) tails
          have inside : group.lines = other.lines :=
            List.map_injective_iff.mpr (List.append_right_injective _) inner
          have otherAll := otherBelow name other List.mem_cons_self
          rw [below name group List.mem_cons_self other otherAll inside,
            ih (fun next tree member => below next tree (List.mem_cons_of_mem _ member))
              (fun next tree member => otherBelow next tree (List.mem_cons_of_mem _ member)) later]

/-- Trees whose names have neither gaps nor newlines are told apart by their lines. -/
theorem lines_inj {tree other : Tree} (names : NamesAll Tag.IsUnbroken tree)
    (otherNames : NamesAll Tag.IsUnbroken other) (same : tree.lines = other.lines) :
    tree = other := by
  induction names generalizing other with
  | @node values groups ofValues ofGroups _ ih =>
      cases otherNames with
      | @node otherValues otherGroups otherOfValues otherOfGroups otherBelow =>
          have gaps (more : Bool) (values : List (Text × Text)) :
              ∀ line ∈ valueLines more values, hasGap line = true := by
            intro line member
            obtain ⟨name, content, last, -, rfl⟩ := mem_valueLines member
            rw [hasGap_branch]
            simp
          have noGaps {groups : List (Text × Tree)}
              (unbroken : ∀ name ∈ Assoc.names groups, Tag.IsUnbroken name) :
              ∀ line, (groupLines groups).head? = some line → hasGap line = false := by
            intro line first
            obtain ⟨name, last, member, rfl⟩ := head?_groupLines first
            have noSpace : ' ' ∉ name := (unbroken name member).not_mem (by decide)
            rw [hasGap_branch]
            simpa using noSpace
          rw [lines, lines] at same
          obtain ⟨valuesSame, groupsSame⟩ := append_inj_of_boundary (gaps _ values)
            (noGaps ofGroups) (gaps _ otherValues) (noGaps otherOfGroups) same
          rw [valueLines_inj ofValues otherOfValues valuesSame,
            groupLines_inj (fun name group member other otherAll => ih name group member otherAll)
              otherBelow groupsSame]

/-! ## The end of a drawing -/

/-- The last of some lines ends with a quote. -/
def EndsQuoted (lines : List Text) : Prop :=
  ∃ before line, lines = before ++ [line] ∧ line.getLast? = some '"'

theorem EndsQuoted.append {lines : List Text} (ends : EndsQuoted lines) (before : List Text) :
    EndsQuoted (before ++ lines) := by
  obtain ⟨front, line, rfl, quote⟩ := ends
  exact ⟨before ++ front, line, by simp, quote⟩

theorem EndsQuoted.map_append {lines : List Text} (ends : EndsQuoted lines) (columns : Text) :
    EndsQuoted (lines.map (columns ++ ·)) := by
  obtain ⟨front, line, rfl, quote⟩ := ends
  refine ⟨front.map (columns ++ ·), columns ++ line, by simp, ?_⟩
  rw [List.getLast?_append, quote]
  rfl

theorem endsQuoted_valueLines (more : Bool) {values : List (Text × Text)} (some : values ≠ []) :
    EndsQuoted (valueLines more values) := by
  induction values with
  | nil => exact absurd rfl some
  | cons pair rest ih =>
      obtain ⟨name, content⟩ := pair
      cases rest with
      | nil =>
          refine ⟨[], _, rfl, ?_⟩
          rw [List.getLast?_append, getLast?_quoted]
          rfl
      | cons next later => exact (ih (List.cons_ne_nil next later)).append [_]

theorem endsQuoted_groupLines {groups : List (Text × Tree)} (some : groups ≠ [])
    (inside : ∀ name group, (name, group) ∈ groups → EndsQuoted group.lines) :
    EndsQuoted (groupLines groups) := by
  induction groups with
  | nil => exact absurd rfl some
  | cons pair rest ih =>
      obtain ⟨name, group⟩ := pair
      rw [groupLines]
      cases rest with
      | nil =>
          have ends := (inside name group List.mem_cons_self).map_append (trunk true)
          simpa [groupLines] using ends.append [branch true ++ name]
      | cons next later =>
          apply EndsQuoted.append
          refine ih (List.cons_ne_nil next later) fun other tree member => ?_
          exact inside other tree (List.mem_cons_of_mem _ member)

/-- The drawing of a tree that is not empty ends with the line of a value, if every group has a
value somewhere below it. No group is empty then, since an empty one would have none. -/
theorem endsQuoted_lines {tree : Tree} (full : ¬ HasBareGroup tree) (some : tree.isEmpty = false) :
    EndsQuoted tree.lines := by
  induction tree with
  | node values groups ih =>
      rw [lines]
      by_cases noGroups : groups = []
      · have someValues : values ≠ [] := by
          rintro rfl
          rw [noGroups] at some
          cases some
        rw [noGroups, groupLines, List.append_nil]
        exact endsQuoted_valueLines _ someValues
      · apply EndsQuoted.append
        refine endsQuoted_groupLines noGroups fun name group member => ?_
        refine ih name group member (fun bad => full (.deeper member bad)) ?_
        cases group with
        | node inner below =>
            apply Bool.eq_false_iff.mpr
            intro nothing
            simp only [isEmpty, Tree.values, Tree.groups, Bool.and_eq_true, List.isEmpty_iff]
              at nothing
            refine full (.here member ?_)
            rw [nothing.1, nothing.2]
            rfl

/-- Lines below a label are the label and each line behind a newline, and a newline. -/
theorem unlines_cons_eq (label : Text) (lines : List Text) :
    unlines (label :: lines) = label ++ lines.flatMap ('\n' :: ·) ++ ['\n'] := by
  induction lines generalizing label with
  | nil => simp [unlines]
  | cons line lines ih =>
      have first : unlines (label :: line :: lines) = label ++ '\n' :: unlines (line :: lines) := by
        simp [unlines]
      rw [first, ih]
      simp

/-- The newline behind the last line of a drawing is trimmed. -/
theorem draw_eq_trimEnd (tree : Tree) (label : Text) :
    tree.draw label = trimEnd isBlank (label ++ tree.lines.flatMap ('\n' :: ·)) := by
  have newline : ∀ c ∈ ['\n'], isBlank c = true := List.forall_mem_singleton.mpr (by decide)
  rw [draw, unlines_cons_eq, trimEnd_append newline]

/-- Nothing but the last newline is trimmed behind a line that ends with a quote. -/
theorem draw_eq {tree : Tree} (ends : EndsQuoted tree.lines) (label : Text) :
    tree.draw label = label ++ tree.lines.flatMap ('\n' :: ·) := by
  rw [draw_eq_trimEnd]
  apply trimEnd_eq_self
  intro c last
  obtain ⟨before, line, cut, quote⟩ := ends
  rw [cut, List.flatMap_append, List.flatMap_singleton, List.getLast?_append, List.getLast?_append,
    List.getLast?_cons, quote] at last
  obtain rfl := Option.some.inj last
  decide

/-- Lines without newlines, each behind a newline, are told apart by the text that they make up. -/
theorem flatMap_newline_inj {lines others : List Text} (plain : ∀ line ∈ lines, '\n' ∉ line)
    (otherPlain : ∀ line ∈ others, '\n' ∉ line)
    (same : lines.flatMap ('\n' :: ·) = others.flatMap ('\n' :: ·)) : lines = others := by
  have whole : unlines ([] :: lines) ++ [] = unlines ([] :: others) ++ [] := by
    rw [unlines_cons_eq, unlines_cons_eq, same]
  have pieces := congrArg (splitOn '\n') whole
  rw [splitOn_unlines_append (by simpa using plain) List.not_mem_nil,
    splitOn_unlines_append (by simpa using otherPlain) List.not_mem_nil] at pieces
  exact (List.cons.inj (List.append_cancel_right pieces)).2

/-- The drawing of the empty tree is no longer than its label. -/
theorem length_draw_empty (label : Text) : (empty.draw label).length ≤ label.length := by
  obtain ⟨after, cut, -⟩ := exists_append_trimEnd isBlank label
  have noLines : empty.lines = [] := by simp [empty, lines, valueLines, groupLines]
  have longer := congrArg List.length cut
  rw [List.length_append] at longer
  rw [draw_eq_trimEnd, noLines, List.flatMap_nil, List.append_nil]
  omega

/-- The drawing of a tree with lines is longer than its label. -/
theorem length_lt_draw {tree : Tree} (ends : EndsQuoted tree.lines) (label : Text) :
    label.length < (tree.draw label).length := by
  obtain ⟨before, line, cut, -⟩ := id ends
  rw [draw_eq ends, cut, List.flatMap_append, List.flatMap_singleton]
  simp only [List.length_append, List.length_cons]
  omega

theorem eq_empty_of_isEmpty {tree : Tree} (nothing : tree.isEmpty = true) : tree = empty := by
  cases tree with
  | node values groups =>
      simp only [isEmpty, Tree.values, Tree.groups, Bool.and_eq_true, List.isEmpty_iff] at nothing
      rw [nothing.1, nothing.2]
      rfl

/-- The lines of a parsed tree that is not empty end with a quote. -/
theorem endsQuoted_of_parse {text : Text} {tree : Tree} (parsed : Comment.parse text = .ok tree)
    (some : tree.isEmpty = false) : EndsQuoted tree.lines :=
  endsQuoted_lines (Inserted.parsed parsed).not_hasBareGroup some

/-- Parsed trees with the same drawing are both empty, or neither is. -/
theorem isEmpty_eq_of_draw_eq {label text : Text} {tree : Tree}
    (parsed : Comment.parse text = .ok tree) (same : tree.draw label = empty.draw label) :
    tree.isEmpty = true := by
  by_contra some
  have longer := length_lt_draw (endsQuoted_of_parse parsed (Bool.eq_false_iff.mpr some)) label
  have shorter := length_draw_empty label
  rw [same] at longer
  omega

/-- **Drawings.** Two parsed trees with one drawing under the same label are the same tree, with
every order. The drawing of a parsed tree that is not empty is its label, with nothing trimmed, and
below it a line for each value and each group, in their order and at their depth. -/
theorem drawing_lossless (label : Text) {first second : Text} {tree other : Tree}
    (parsed : Comment.parse first = .ok tree) (otherParsed : Comment.parse second = .ok other) :
    (tree.render label .tree = other.render label .tree → tree = other) ∧
      (tree.isEmpty = false →
        ∃ lines, tree.render label .tree = label ++ lines.flatMap ('\n' :: ·) ∧
          (∀ line ∈ lines, '\n' ∉ line) ∧ List.Forall₂ Row.ShownBy tree.rows lines) := by
  have names := Comment.namesAll_of_parse parsed
  have otherNames := Comment.namesAll_of_parse otherParsed
  refine ⟨fun same => ?_, fun some => ?_⟩
  · rw [render, render] at same
    cases nothing : tree.isEmpty with
    | true =>
        have here := eq_empty_of_isEmpty nothing
        rw [here] at same
        rw [here, eq_empty_of_isEmpty (isEmpty_eq_of_draw_eq otherParsed same.symm)]
    | false =>
        cases otherNothing : other.isEmpty with
        | true =>
            rw [eq_empty_of_isEmpty otherNothing] at same
            rw [isEmpty_eq_of_draw_eq parsed same] at nothing
            cases nothing
        | false =>
            rw [draw_eq (endsQuoted_of_parse parsed nothing),
              draw_eq (endsQuoted_of_parse otherParsed otherNothing)] at same
            exact lines_inj names otherNames (flatMap_newline_inj (newline_not_mem_lines names)
              (newline_not_mem_lines otherNames) (List.append_cancel_left same))
  · exact ⟨tree.lines, draw_eq (endsQuoted_of_parse parsed some) label,
      newline_not_mem_lines names, lines_shown tree⟩

/-- Names made of the characters that columns are drawn with, under a label that ends with a space:
two comments with the same drawing have the same tree. -/
theorem drawing_lossless_of_columns :
    ∃ tree other, Comment.parse "/** @│-├── 1\n@│-├── = */".toList = .ok tree ∧
      Comment.parse "/**\n * @│-├──\t=\n */".toList = .ok other ∧
      tree.render ['x', ' '] .tree = "x \n└── │\n    └── ├── = \"=\"".toList ∧
      other.render ['x', ' '] .tree = "x \n└── │\n    └── ├── = \"=\"".toList ∧
      tree = other ∧
      ∃ lines, tree.render ['x', ' '] .tree = ['x', ' '] ++ lines.flatMap ('\n' :: ·) ∧
        (∀ line ∈ lines, '\n' ∉ line) ∧ List.Forall₂ Row.ShownBy tree.rows lines := by
  have firstTags : Tag.ofBody " @│-├── 1\n@│-├── = ".toList =
      [⟨"│-├──".toList, ['1']⟩, ⟨"│-├──".toList, ['=']⟩] := by
    decide
  have secondTags : Tag.ofBody "\n * @│-├──\t=\n ".toList = [⟨"│-├──".toList, ['=']⟩] := by
    decide
  have firstWhole : "/** @│-├── 1\n@│-├── = */".toList =
      Comment.opening ++ " @│-├── 1\n@│-├── = ".toList ++ Comment.closing := by
    decide
  have secondWhole : "/**\n * @│-├──\t=\n */".toList =
      Comment.opening ++ "\n * @│-├──\t=\n ".toList ++ Comment.closing := by
    decide
  have firstRead := Comment.body_enclosed " @│-├── 1\n@│-├── = ".toList
  have secondRead := Comment.body_enclosed "\n * @│-├──\t=\n ".toList
  rw [← firstWhole] at firstRead
  rw [← secondWhole] at secondRead
  have parsed := Comment.parse_eq_ok_iff.mpr ⟨_, firstRead, congrArg Comment.treeOf firstTags⟩
  have otherParsed :=
    Comment.parse_eq_ok_iff.mpr ⟨_, secondRead, congrArg Comment.treeOf secondTags⟩
  have drawn : (Comment.treeOf [⟨"│-├──".toList, ['1']⟩, ⟨"│-├──".toList, ['=']⟩]).render
      ['x', ' '] .tree = "x \n└── │\n    └── ├── = \"=\"".toList := by
    decide +kernel
  have otherDrawn : (Comment.treeOf [⟨"│-├──".toList, ['=']⟩]).render
      ['x', ' '] .tree = "x \n└── │\n    └── ├── = \"=\"".toList := by
    decide +kernel
  have full : (Comment.treeOf [⟨"│-├──".toList, ['1']⟩, ⟨"│-├──".toList, ['=']⟩]).isEmpty =
      false := by
    decide
  obtain ⟨same, shown⟩ := drawing_lossless ['x', ' '] parsed otherParsed
  exact ⟨_, _, parsed, otherParsed, drawn, otherDrawn, same (drawn.trans otherDrawn.symm),
    shown full⟩

end DocTags.Tree
