/-
# The settings template

A settings file in which every setting is explained and none is set.
-/

import DocTags.Text.Basic

namespace DocTags.Settings

/-- The lines of the template. -/
def templateLines : List String := [
  "# hierardoc configuration",
  "#",
  "# Locations (by precedence, lowest to highest):",
  "#   Global: ~/.config/hierardoc/hierardoc.toml  (defines your baseline)",
  "#   Local:  <project_dir>/.hierardoc.toml       (project-specific additions)",
  "#   Env:    HIERARDOC_* environment variables  (explicit overrides)",
  "#",
  "# Array Merge Semantics:",
  "#   Global config REPLACES compiled defaults.",
  "#   Local config UNIONS with global.",
  "#   Use \"!item\" in local config to REMOVE an inherited item:",
  "#     file_extensions = [\"inc\", \"!php\"]",
  "",
  "# Output format: tree, json or flat",
  "# format = \"tree\"",
  "",
  "[scan]",
  "# File extensions searched when scanning a directory",
  "# file_extensions = [\"php\"]",
  "",
  "# Report doc comments without any tags",
  "# include_empty = false"]

/-- The template. -/
def template : Text :=
  Text.unlines (templateLines.map String.toList)

end DocTags.Settings
