/-
# Layers of settings

A layer gives some of the settings and leaves the others as they are below it. There are two ways
to lay extensions over others: to replace them, and to merge them, where an item adds itself and an
item behind an exclamation mark takes away what the mark stands before.
-/

import DocTags.Settings.Basic

namespace DocTags

/-- What a layer says about scanning. -/
structure ScanLayer where
  extensions : Option (List Text) := none
  includeEmpty : Option Bool := none
deriving DecidableEq, Inhabited

/-- What a layer says. -/
structure Layer where
  format : Option Format := none
  scan : ScanLayer := {}
deriving DecidableEq, Inhabited

namespace ScanSettings

/-- Add an item to a set, or take away what stands behind its exclamation mark. -/
def mergeItem (items : List Text) : Text → List Text
  | '!' :: removed => items.filter (· ≠ removed)
  | item => items.insert item

/-- Items of a layer merged into others, in text order and without repetition. -/
def mergeItems (base overlay : List Text) : List Text :=
  (overlay.foldl mergeItem (base.foldr List.insert [])).mergeSort Text.le

/-- Settings under a layer whose extensions are merged into theirs. -/
def merge (base : ScanSettings) (layer : ScanLayer) : ScanSettings where
  extensions := (layer.extensions.map (mergeItems base.extensions)).getD base.extensions
  includeEmpty := layer.includeEmpty.getD base.includeEmpty

/-- Settings under a layer whose extensions replace theirs. -/
def replace (base : ScanSettings) (layer : ScanLayer) : ScanSettings where
  extensions := layer.extensions.getD base.extensions
  includeEmpty := layer.includeEmpty.getD base.includeEmpty

end ScanSettings

namespace Settings

/-- Settings under a layer whose extensions are merged into theirs. -/
def merge (base : Settings) (layer : Layer) : Settings where
  format := layer.format.getD base.format
  scan := base.scan.merge layer.scan

/-- Settings under a layer whose extensions replace theirs. -/
def replace (base : Settings) (layer : Layer) : Settings where
  format := layer.format.getD base.format
  scan := base.scan.replace layer.scan

end Settings

end DocTags
