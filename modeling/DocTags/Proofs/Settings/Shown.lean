/-
# Shown settings are read back

All settings are written as a text in which every setting is given, so that this text alone decides
the settings in force: read as the global file, it replaces the defaults, the list of extensions in
its order and with its repetitions, and without a file of the project nothing is merged into the
list. What extensions hold does not matter, since every text can be written as a string. When the
settings are shown, a newline follows their text, and an empty line says nothing.
-/

import DocTags.Command.Run
import DocTags.Proofs.Settings.Precedence
import DocTags.Proofs.Toml.Lines

namespace DocTags

/-- Settings for scanning as the fields of a table. -/
def ScanSettings.fields (scan : ScanSettings) : List (Text × Toml.Value) :=
  [(ScanLayer.extensionsField, .array (scan.extensions.map .text)),
    (ScanLayer.includeEmptyField, .boolean scan.includeEmpty)]

/-- All settings as the fields of a table. -/
def Settings.fields (settings : Settings) : List (Text × Toml.Value) :=
  [(Layer.formatField, .text settings.format.name), (Layer.scanField, .table settings.scan.fields)]

/-- The layer that gives all settings. -/
def Settings.layer (settings : Settings) : Layer :=
  ⟨some settings.format, ⟨some settings.scan.extensions, some settings.scan.includeEmpty⟩⟩

/-! ## What the fields give -/

theorem Format.ofName?_name (format : Format) : ofName? format.name = some format := by
  cases format <;> rfl

/-- An array of texts gives these texts. -/
theorem Toml.Value.texts?_array (texts : List Text) :
    texts? (.array (texts.map .text)) = some texts := by
  rw [texts?]
  induction texts with
  | nil => rfl
  | cons text texts ih =>
      rw [List.map_cons, List.mapM_cons, ih]
      rfl

/-- The fields of the settings for scanning give both of them. -/
theorem ScanLayer.ofToml?_fields (scan : ScanSettings) :
    ofToml? (.table scan.fields) = some ⟨some scan.extensions, some scan.includeEmpty⟩ := by
  have extensions : List.lookup extensionsField scan.fields =
      some (.array (scan.extensions.map .text)) := rfl
  have includeEmpty : List.lookup includeEmptyField scan.fields =
      some (.boolean scan.includeEmpty) := rfl
  rw [ofToml?, extensions, includeEmpty, ofValues?, Option.mapM_some, Option.mapM_some,
    Toml.Value.texts?_array]
  rfl

/-- The fields of all settings give all of them. -/
theorem Layer.ofFields?_fields (settings : Settings) :
    ofFields? settings.fields = some settings.layer := by
  have format : List.lookup formatField settings.fields =
      some (.text settings.format.name) := rfl
  have scan : List.lookup scanField settings.fields = some (.table settings.scan.fields) := rfl
  rw [ofFields?, format, scan, Option.mapM_some, Option.mapM_some, Toml.Value.format?,
    Format.ofName?_name, ScanLayer.ofToml?_fields]
  rfl

namespace Environment

/-! ## Variables that give nothing -/

/-- No variable means a setting. -/
def SetsNothing (environment : Environment) : Prop :=
  ∀ name ∈ Assoc.names environment, ¬ variableStart <+: Text.lowercase name

instance (environment : Environment) : Decidable environment.SetsNothing :=
  inferInstanceAs (Decidable (∀ name ∈ Assoc.names environment, _))

variable {environment : Environment}

theorem SetsNothing.tree_eq (nothing : environment.SetsNothing) : environment.tree = .table [] := by
  have untouched : ∀ tree, environment.foldl putVariable tree = tree := by
    intro tree
    induction environment with
    | nil => rfl
    | cons pair environment ih =>
        obtain ⟨here, nothing⟩ := List.forall_mem_cons.mp nothing
        rw [List.foldl_cons, putVariable_foreign tree here]
        exact ih nothing
  exact untouched (.table [])

/-- Nothing stands under the path of a setting. -/
theorem SetsNothing.at?_key (nothing : environment.SetsNothing) (setting : Setting) :
    environment.at? setting.key = none := by
  rw [at?, nothing.tree_eq]
  cases setting <;> rfl

/-- The layer of such an environment gives nothing. -/
theorem SetsNothing.layerOfEnvironment (nothing : environment.SetsNothing) :
    Settings.layerOfEnvironment environment = .ok {} := by
  have format : environment.at? formatKey = none := nothing.at?_key .format
  have extensions : environment.at? extensionsKey = none := nothing.at?_key .extensions
  have includeEmpty : environment.at? includeEmptyKey = none := nothing.at?_key .includeEmpty
  rw [Settings.layerOfEnvironment, Environment.format, Environment.extensions,
    Environment.includeEmpty, format, extensions, includeEmpty]
  rfl

end Environment

namespace Settings

open Toml

variable (settings : Settings)

/-! ## The text is read line by line -/

/-- A table of values that are complete. -/
def tableOf (fields : List (Text × Toml.Value)) : Node :=
  .table false false (fields.map fun (key, value) => (key, .value value))

/-- The format is defined in the root table, and the settings for scanning in the table that is open
at the end. -/
theorem linesFrom_toToml {count fuel : Nat} (enough : count < fuel) :
    linesFrom (fuel + 5) .start (settings.toToml ++ List.replicate count '\n') =
      some ⟨tableOf [(Layer.formatField, .text settings.format.name)], tableOf settings.scan.fields,
        [Layer.scanField], false⟩ := by
  rw [toToml]
  simp only [List.append_assoc, List.cons_append, List.nil_append]
  rw [linesFrom_writeField (by decide) (spells_writeString settings.format.name) rfl,
    linesFrom_newline, linesFrom_writeHeader (by decide) rfl,
    linesFrom_writeField (by decide) (spells_writeStrings settings.scan.extensions) rfl,
    linesFrom_writeField (by decide) (spells_writeBoolean settings.scan.includeEmpty) rfl,
    linesFrom_newlines enough]
  rfl

/-- The text of settings is read as their fields, however many empty lines follow it. -/
theorem read_toToml (count : Nat) :
    Toml.read (settings.toToml ++ List.replicate count '\n') = some settings.fields := by
  have long : 5 ≤ settings.toToml.length := by
    simp [toToml, writeField]
    omega
  obtain ⟨fuel, length⟩ :
      ∃ fuel, (settings.toToml ++ List.replicate count '\n').length + 1 = fuel + 5 :=
    Nat.exists_eq_add_of_le' (by rw [List.length_append]; omega)
  have enough : count < fuel := by
    rw [List.length_append, List.length_replicate] at length
    omega
  have unmarked : skipMark (settings.toToml ++ List.replicate count '\n') =
      settings.toToml ++ List.replicate count '\n' := rfl
  rw [Toml.read, unmarked, length, linesFrom_toToml settings enough]
  rfl

/-- So it gives all settings. -/
theorem ofToml?_toToml (count : Nat) :
    Layer.ofToml? (settings.toToml ++ List.replicate count '\n') = some settings.layer := by
  rw [Layer.ofToml?, read_toToml, Option.bind_eq_bind, Option.bind_some, Layer.ofFields?_fields]

/-! ## Loading -/

variable {settings} {environment : Environment}

/-- A global file that gives all settings decides alone, where there is no file of the project and
no variable means a setting. -/
theorem load_of_layer {content : Text} (given : Layer.ofToml? content = some settings.layer)
    (globalFile : Path) (projectFile : Option Path) (nothing : environment.SetsNothing) :
    load (some (globalFile, .text content)) (projectFile.map fun file => (file, .absent))
      environment = .ok settings := by
  have usable : fileFault? (some (globalFile, .text content)) = none := by
    rw [fileFault?, given]
  have globalLayer : fileLayer (some (globalFile, .text content)) = settings.layer := by
    rw [fileLayer, given, Option.getD_some]
  rw [load, readLayer_eq, readLayer_eq, usable, globalLayer, nothing.layerOfEnvironment]
  cases projectFile <;> rfl

/-- **Shown settings.** The text of any settings, read as the global file, gives just these settings
again, where there is no file of the project and no variable means a setting. So does what is
written when the settings are shown. -/
theorem load_toToml (settings : Settings) (globalFile : Path) (projectFile : Option Path)
    (nothing : environment.SetsNothing) :
    load (some (globalFile, .text settings.toToml))
        (projectFile.map fun file => (file, .absent)) environment = .ok settings ∧
      ∀ world : World, ∃ shown, Task.configShow.perform world settings = .ok shown ∧
        load (some (globalFile, .text shown.output))
          (projectFile.map fun file => (file, .absent)) environment = .ok settings := by
  constructor
  · have given := settings.ofToml?_toToml 0
    rw [List.replicate_zero, List.append_nil] at given
    exact load_of_layer given globalFile projectFile nothing
  · intro world
    have given := settings.ofToml?_toToml 1
    exact ⟨_, rfl, load_of_layer given globalFile projectFile nothing⟩

/-- Extensions with quotes of both kinds, a newline and a control stand out of order, and one stands
twice. Another program's variable is set, and there is a project without a file. -/
theorem load_toToml_of_quotes :
    let settings : Settings :=
      ⟨.flat, ⟨["php".toList, "\"".toList, "'\"\"".toList, "\n'''\x01\"\"\"".toList, [],
        "php".toList], true⟩⟩
    let written : Text :=
      ("format = \"flat\"\n\n[scan]\nfile_extensions = [\n    \"php\",\n    '\"',\n" ++
        "    \"\"\"'\"\"\"\"\",\n    \"\"\"\n\n'''\\u0001\"\"\\\"\"\"\",\n" ++
        "    \"\",\n    \"php\",\n]\ninclude_empty = true\n").toList
    let environment : Environment := [("PATH".toList, "/bin".toList)]
    settings.toToml = written ∧
      load (some (⟨"hierardoc.toml".toList⟩, .text written))
        (some (⟨".hierardoc.toml".toList⟩, .absent)) environment = .ok settings := by
  intro settings written environment
  have same : settings.toToml = written := by decide +kernel
  have nothing : environment.SetsNothing := by decide
  have loaded := load_toToml settings ⟨"hierardoc.toml".toList⟩
    (some ⟨".hierardoc.toml".toList⟩) nothing
  rw [same] at loaded
  exact ⟨same, loaded.1⟩

end Settings

end DocTags
