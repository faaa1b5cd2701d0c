/-
# What a written report shows

A report is written match by match. Where trees are drawn, the place of every match is a line of
its own above its tree; nothing of it is trimmed, since it ends with a digit. In the flat format a
match has a line for each of its values, which starts with the place. A match without values, as
that of a comment without tags is, has no line there: the report is written as if it did not have
that match.
-/

import DocTags.Proofs.Scan.LineEndings
import DocTags.Proofs.Tree.Drawing

namespace DocTags

open Text

/-- A label that stands on one line and does not end with a blank character is the first line of a
drawing: what is left below the label starts with the newline behind it. -/
theorem Tree.exists_splitOn_draw {label : Text} (plain : '\n' ∉ label)
    (visible : ∀ c, label.getLast? = some c → isBlank c = false) (tree : Tree) :
    ∃ lines, splitOn '\n' (tree.draw label) = label :: lines := by
  rw [draw_eq_trimEnd, trimEnd_append_left visible]
  obtain ⟨after, cut, -⟩ := exists_append_trimEnd isBlank (tree.lines.flatMap ('\n' :: ·))
  cases below : trimEnd isBlank (tree.lines.flatMap ('\n' :: ·)) with
  | nil => exact ⟨[], by rw [List.append_nil, splitOn_of_not_mem plain]⟩
  | cons c rest =>
      rw [below] at cut
      cases drawn : tree.lines with
      | nil =>
          rw [drawn] at cut
          cases cut
      | cons line lines =>
          rw [drawn] at cut
          obtain ⟨rfl, -⟩ := List.cons.inj cut
          exact ⟨_, splitOn_append_cons plain rest⟩

namespace Match

/-- A place stands on one line if the path does. -/
theorem newline_not_mem_place {found : Match} (plain : '\n' ∉ found.path.text) :
    '\n' ∉ found.place := by
  have noDigit : '\n' ∉ ofNat found.line := not_mem_toDigits (by decide) (by decide) found.line
  simp [place, plain, noDigit]

/-- A place does not end with a blank character. -/
theorem visible_place (found : Match) (c : Char) (last : found.place.getLast? = some c) :
    isBlank c = false := by
  rw [place, List.getLast?_append_of_ne_nil _ (List.cons_ne_nil _ _)] at last
  rcases List.mem_cons.mp (List.mem_of_getLast? last) with rfl | inNumber
  · decide
  · obtain ⟨digit, small, rfl⟩ := exists_of_mem_toDigits (by decide) inNumber
    exact (by decide : ∀ digit < 10, isBlank (Nat.digitChar digit) = false) digit small

/-- A text shows some matches if it has a line for each of them, in their order, that starts with
the place of the match. -/
def ShownIn (text : Text) (found : List Match) : Prop :=
  ∃ lines, lines.Sublist (splitOn '\n' text) ∧
    List.Forall₂ (fun candidate line => candidate.place <+: line) found lines

/-- Matches are shown where the lines of a text are made of parts, one for each match, that have a
line with the place of the match. -/
theorem shownIn_of_parts {text : Text} {found : List Match} (parts : Match → List Text)
    (whole : found ≠ [] → splitOn '\n' text = found.flatMap parts)
    (shown : ∀ candidate ∈ found, ∃ line ∈ parts candidate, candidate.place <+: line) :
    ShownIn text found := by
  have lines : ∃ lines, lines.Sublist (found.flatMap parts) ∧
      List.Forall₂ (fun candidate line => candidate.place <+: line) found lines := by
    clear whole
    induction found with
    | nil => exact ⟨[], List.Sublist.refl _, .nil⟩
    | cons candidate found ih =>
        obtain ⟨⟨line, inPart, begins⟩, later⟩ := List.forall_mem_cons.mp shown
        obtain ⟨lines, kept, all⟩ := ih later
        refine ⟨line :: lines, ?_, .cons begins all⟩
        exact (List.singleton_sublist.mpr inPart).append kept
  by_cases none : found = []
  · exact ⟨[], List.nil_sublist _, none ▸ .nil⟩
  · rw [ShownIn, whole none]
    exact lines

end Match

namespace Report

variable {report : Report}

/-- Every match is drawn below its place. -/
theorem shownIn_tree (plain : ∀ found ∈ report.found, '\n' ∉ found.path.text) :
    Match.ShownIn (report.render .tree) report.found := by
  refine Match.shownIn_of_parts (fun found => splitOn '\n' (found.tags.draw found.place))
    (fun some => ?_) fun found member => ?_
  · rw [render, splitOn_joinWith_eq_flatMap (by simpa using some), List.flatMap_map]
  · obtain ⟨lines, cut⟩ := found.tags.exists_splitOn_draw
      (Match.newline_not_mem_place (plain found member)) found.visible_place
    exact ⟨found.place, cut ▸ List.mem_cons_self, List.prefix_refl _⟩

/-- A report without the matches that have no value. -/
def withValues (report : Report) : Report :=
  { report with found := report.found.filter fun found => !found.tags.entries.isEmpty }

/-- The flat format has nothing of a match without values. -/
theorem render_flat_withValues (report : Report) :
    report.withValues.render .flat = report.render .flat := by
  have lines :
      report.withValues.found.flatMap Match.flatLines = report.found.flatMap Match.flatLines :=
    flatMap_filter_of_nil fun found _ nothing => by simp_all [Match.flatLines]
  rw [render, render, lines]

/-- Every match with a value has a line of the flat format. -/
theorem shownIn_flat (plain : ∀ found ∈ report.found, '\n' ∉ found.path.text) :
    Match.ShownIn (report.render .flat) report.withValues.found := by
  have begins : ∀ found ∈ report.withValues.found,
      ∃ line ∈ found.flatLines.flatMap (splitOn '\n'), found.place <+: line := by
    intro found member
    obtain ⟨inReport, valued⟩ := List.mem_filter.mp member
    cases entries : found.tags.entries with
    | nil => simp [entries] at valued
    | cons entry rest =>
        obtain ⟨piece, pieces, cut⟩ := exists_splitOn_append
          (Match.newline_not_mem_place (plain found inReport)) ([':', ' '] ++ Tree.flatLine entry)
        refine ⟨found.place ++ piece, ?_, List.prefix_append _ _⟩
        rw [Match.flatLines, entries, List.map_cons, List.flatMap_cons, List.append_assoc, cut]
        exact List.mem_append_left _ List.mem_cons_self
  rw [← render_flat_withValues]
  refine Match.shownIn_of_parts _ (fun some => ?_) begins
  have written : report.withValues.found.flatMap Match.flatLines ≠ [] := by
    obtain ⟨found, rest, whole⟩ := List.exists_cons_of_ne_nil some
    obtain ⟨line, inLines, -⟩ := begins found (whole ▸ List.mem_cons_self)
    intro nothing
    have noLines := List.flatMap_eq_nil_iff.mp nothing found (whole ▸ List.mem_cons_self)
    rw [noLines] at inLines
    cases inLines
  rw [render, splitOn_joinWith_eq_flatMap written, List.flatMap_assoc]

/-- **Written reports.** Let the paths of a report stand on one line each. Where its trees are drawn,
the text has a line for every match, in the order of the matches, that starts with the place of the
match. In the flat format it has one for every match with a value, and it is the text of the report
without the other matches. -/
theorem render_shows (plain : ∀ found ∈ report.found, '\n' ∉ found.path.text) :
    Match.ShownIn (report.render .tree) report.found ∧
      Match.ShownIn (report.render .flat)
        (report.found.filter fun found => !found.tags.entries.isEmpty) ∧
      report.render .flat = Report.render .flat
        { report with found := report.found.filter fun found => !found.tags.entries.isEmpty } :=
  ⟨shownIn_tree plain, shownIn_flat plain, (render_flat_withValues report).symm⟩

/-- A tagged and an untagged comment on one line. -/
theorem render_shows_of_line :
    let found : Match := ⟨⟨['f']⟩, 1, Comment.treeOf [⟨['k'], ['v']⟩]⟩
    let untagged : Match := ⟨⟨['f']⟩, 1, Tree.empty⟩
    let report : Report := ⟨1, 0, [found, untagged]⟩
    report.render .tree = "f:1\n└── k = \"v\"\nf:1".toList ∧
      Match.ShownIn (report.render .tree) [found, untagged] ∧
      report.render .flat = "f:1: k=v".toList ∧ Match.ShownIn (report.render .flat) [found] ∧
      report.render .flat = Report.render .flat ⟨1, 0, [found]⟩ := by
  intro found untagged report
  have plain : ∀ found ∈ report.found, '\n' ∉ found.path.text := by decide
  obtain ⟨tree, flat, same⟩ := render_shows plain
  exact ⟨by decide +kernel, tree, by decide, flat, same⟩

/-- A comment without tags is found and reported, and the flat format does not show it. -/
theorem render_of_untagged :
    let report : Report := ⟨1, 0, [⟨⟨['f']⟩, 1, Tree.empty⟩]⟩
    (Memory.ofFile "/** x */".toList).fileSystem.scan { includeEmpty := true } ⟨['f']⟩ =
        .ok report ∧
      (∀ found ∈ report.found, '\n' ∉ found.path.text) ∧
      ¬ ∀ found ∈ report.found, ∃ line ∈ splitOn '\n' (report.render .flat),
        found.place <+: line := by
  intro report
  refine ⟨?_, by decide, by decide⟩
  have cut : Comment.Segmentation "/** x */".toList [⟨[], "/** x */".toList⟩] [] := by decide
  have blocks : Comment.blocks "/** x */".toList = [⟨1, "/** x */".toList⟩] := cut.blocksFrom_eq 1
  have read : (Memory.ofFile "/** x */".toList).fileSystem.readText ⟨['f']⟩ =
      .ok "/** x */".toList := rfl
  have file : (Memory.ofFile "/** x */".toList).fileSystem.isFile ⟨['f']⟩ = true := rfl
  rw [FileSystem.scan, if_pos file, FileSystem.scanFile_of_readText read, Match.inSource, blocks]
  rfl

end Report

end DocTags
