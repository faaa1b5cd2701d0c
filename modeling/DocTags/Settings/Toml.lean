/-
# Settings as TOML

A layer is read from a table with the fields `format` and `scan`, and `scan` is a table with the
fields `file_extensions` and `include_empty`; other fields are passed over. A format is its name, or
a table whose one field is named after it and is empty. The fields of `scan` may also be given in
their order as an array. All settings are written in the same fields.
-/

import DocTags.Settings.Layer
import DocTags.Toml.Reader
import DocTags.Toml.Writer

namespace DocTags

namespace Toml.Value

/-- The fields of a table or the items of an array, where there are none. -/
def isEmpty : Value → Bool
  | array [] => true
  | table [] => true
  | _ => false

/-- A value as a text. -/
def text? : Value → Option Text
  | text value => some value
  | _ => none

/-- A value as a truth value. -/
def boolean? : Value → Option Bool
  | boolean value => some value
  | _ => none

/-- A value as a list of texts. -/
def texts? : Value → Option (List Text)
  | array items => items.mapM text?
  | _ => none

/-- A value as a format. -/
def format? : Value → Option Format
  | text name => Format.ofName? name
  | table [(name, inner)] => if inner.isEmpty then Format.ofName? name else none
  | _ => none

end Toml.Value

namespace ScanLayer

/-- The name of the field that holds the extensions. -/
def extensionsField : Text :=
  "file_extensions".toList

/-- The name of the field that says whether comments without tags are reported. -/
def includeEmptyField : Text :=
  "include_empty".toList

/-- The layer of two values that may be missing, if they are of the right kinds. -/
def ofValues? (extensions includeEmpty : Option Toml.Value) : Option ScanLayer := do
  let extensions ← extensions.mapM Toml.Value.texts?
  let includeEmpty ← includeEmpty.mapM Toml.Value.boolean?
  return ⟨extensions, includeEmpty⟩

/-- The layer that a value gives. A date or a time counts as a table without known fields. -/
def ofToml? : Toml.Value → Option ScanLayer
  | .table fields => ofValues? (fields.lookup extensionsField) (fields.lookup includeEmptyField)
  | .array items => ofValues? items[0]? items[1]?
  | .moment => some {}
  | _ => none

end ScanLayer

namespace Layer

/-- The name of the field that holds the format. -/
def formatField : Text :=
  "format".toList

/-- The name of the field that holds the settings for scanning. -/
def scanField : Text :=
  "scan".toList

/-- The layer that the fields of a table give. -/
def ofFields? (fields : List (Text × Toml.Value)) : Option Layer := do
  let format ← (fields.lookup formatField).mapM Toml.Value.format?
  let scan ← (fields.lookup scanField).mapM ScanLayer.ofToml?
  return ⟨format, scan.getD {}⟩

/-- The layer that a text gives. -/
def ofToml? (text : Text) : Option Layer := do
  ofFields? (← Toml.read text)

end Layer

namespace Settings

/-- The settings that a text gives, with defaults for what it leaves out. -/
def ofToml? (text : Text) : Option Settings :=
  (Layer.ofToml? text).map (replace {})

/-- The text of settings. -/
def toToml (settings : Settings) : Text :=
  Toml.writeField Layer.formatField (Toml.writeString settings.format.name) ++ ['\n'] ++
    Toml.writeHeader Layer.scanField ++
    Toml.writeField ScanLayer.extensionsField (Toml.writeStrings settings.scan.extensions) ++
    Toml.writeField ScanLayer.includeEmptyField (Toml.writeBoolean settings.scan.includeEmpty)

end Settings

end DocTags
