/-
# Which layer decides

Settings are loaded when every source of them can be used: the global file and the file of the
project, where they exist, and the three variables, where they are set. The first source that
cannot be used is reported, even if higher layers give all that it would have given. When all can be
used, every setting is decided by what the layers say about that setting alone.
-/

import DocTags.Proofs.Settings.Variables

namespace DocTags

namespace Environment

/-- The format that the text of its variable gives. -/
def decodeFormat (text : Text) : Except Problem Format := do
  readFormat (← (readValue formatKey text).toText formatKey)

/-- The extensions that the text of their variable gives. -/
def decodeExtensions (text : Text) : Except Problem (List Text) :=
  (readValue extensionsKey text).toTexts extensionsKey

/-- Whether untagged comments are reported, as the text of the variable says. -/
def decodeIncludeEmpty (text : Text) : Except Problem Bool :=
  (readValue includeEmptyKey text).toBool includeEmptyKey

/-- What a variable gives, if it is set and its text can be decoded. -/
def given? {α : Type} (environment : Environment) (setting : Setting)
    (decode : Text → Except Problem α) : Option α :=
  (environment.lookup setting.name).bind fun text => (decode text).toOption

/-- Why a variable that is set cannot be decoded. -/
def problem? {α : Type} (environment : Environment) (setting : Setting)
    (decode : Text → Except Problem α) : Option Problem :=
  (environment.lookup setting.name).bind fun text =>
    match decode text with
    | .ok _ => none
    | .error problem => some problem

/-- The text of a variable can be decoded, if it is set. -/
def Decodes {α : Type} (environment : Environment) (setting : Setting)
    (decode : Text → Except Problem α) : Prop :=
  ∀ text, environment.lookup setting.name = some text → ∃ value, decode text = .ok value

theorem problem?_eq_none_iff {α : Type} {environment : Environment} {setting : Setting}
    {decode : Text → Except Problem α} :
    environment.problem? setting decode = none ↔ environment.Decodes setting decode := by
  unfold problem? Decodes
  cases environment.lookup setting.name with
  | none => simp
  | some text =>
      cases read : decode text with
      | ok value => simp [read]
      | error problem => simp [read]

end Environment

namespace Settings

open Environment

/-! ## The sources and their faults -/

/-- A settings file can be used: if it exists, it can be read and gives a layer. -/
def Usable : Option (Path × SettingsFile) → Prop
  | none => True
  | some (_, .absent) => True
  | some (_, .unreadable _) => False
  | some (_, .text content) => ∃ layer, Layer.ofToml? content = some layer

/-- Why a settings file cannot be used. -/
def fileFault? : Option (Path × SettingsFile) → Option Fault
  | none => none
  | some (_, .absent) => none
  | some (path, .unreadable cause) => some (.unreadable path cause)
  | some (path, .text content) =>
    match Layer.ofToml? content with
    | some _ => none
    | none => some (.malformed path)

/-- What a settings file says, which is nothing if it does not exist. -/
def fileLayer : Option (Path × SettingsFile) → Layer
  | some (_, .text content) => (Layer.ofToml? content).getD {}
  | _ => {}

theorem fileFault?_eq_none_iff {file : Option (Path × SettingsFile)} :
    fileFault? file = none ↔ Usable file := by
  cases file with
  | none => simp [fileFault?, Usable]
  | some found =>
      obtain ⟨path, file⟩ := found
      cases file with
      | absent => simp [fileFault?, Usable]
      | unreadable cause => simp [fileFault?, Usable]
      | text content => cases read : Layer.ofToml? content <;> simp [fileFault?, Usable, read]

/-- The sources of settings from the first to the last. -/
inductive Source where
  | globalFile
  | projectFile
  | format
  | extensions
  | includeEmpty

namespace Source

/-- The sources in their order. -/
def all : List Source :=
  [globalFile, projectFile, format, extensions, includeEmpty]

/-- A source can be used. -/
def Usable (global project : Option (Path × SettingsFile)) (environment : Environment) :
    Source → Prop
  | globalFile => Settings.Usable global
  | projectFile => Settings.Usable project
  | format => environment.Decodes .format decodeFormat
  | extensions => environment.Decodes .extensions decodeExtensions
  | includeEmpty => environment.Decodes .includeEmpty decodeIncludeEmpty

/-- Why a source cannot be used. -/
def fault? (global project : Option (Path × SettingsFile)) (environment : Environment) :
    Source → Option Fault
  | globalFile => fileFault? global
  | projectFile => fileFault? project
  | format => (environment.problem? .format decodeFormat).map (.badVariable formatVariable)
  | extensions =>
    (environment.problem? .extensions decodeExtensions).map (.badVariable extensionsVariable)
  | includeEmpty =>
    (environment.problem? .includeEmpty decodeIncludeEmpty).map (.badVariable includeEmptyVariable)

theorem mem_all (source : Source) : source ∈ all := by
  cases source <;> simp [all]

end Source

variable {global project : Option (Path × SettingsFile)} {environment : Environment}

/-- A source can be used when it has no fault. -/
theorem Source.fault?_eq_none_iff {source : Source} :
    source.fault? global project environment = none ↔
      source.Usable global project environment := by
  cases source with
  | globalFile => exact fileFault?_eq_none_iff
  | projectFile => exact fileFault?_eq_none_iff
  | format => exact Option.map_eq_none_iff.trans problem?_eq_none_iff
  | extensions => exact Option.map_eq_none_iff.trans problem?_eq_none_iff
  | includeEmpty => exact Option.map_eq_none_iff.trans problem?_eq_none_iff

/-! ## Loading -/

/-- A value, unless there is a fault. -/
def settle {α ε : Type} (fault : Option ε) (value : α) : Except ε α :=
  fault.elim (.ok value) .error

theorem settle_bind {α β ε : Type} (fault : Option ε) (value : α) (next : α → Except ε β) :
    (settle fault value >>= next) = fault.elim (next value) .error := by
  cases fault <;> rfl

/-- The fault of the first source is reported, and those of the others without it. -/
theorem settle_findSome?_cons {α ε σ : Type} (fault? : σ → Option ε) (source : σ)
    (sources : List σ) (value : α) :
    settle ((source :: sources).findSome? fault?) value =
      (fault? source).elim (settle (sources.findSome? fault?) value) .error := by
  rw [List.findSome?_cons]
  cases fault? source <;> rfl

theorem settle_eq_ok_iff {α ε : Type} {fault : Option ε} {value result : α} :
    settle fault value = .ok result ↔ fault = none ∧ value = result := by
  cases fault with
  | none => simp [settle]
  | some fault => simp [settle]

theorem settle_eq_error_iff {α ε : Type} {fault : Option ε} {value : α} {reported : ε} :
    settle fault value = .error reported ↔ fault = some reported := by
  cases fault with
  | none => simp [settle]
  | some fault => simp [settle]

theorem readLayer_eq (file : Option (Path × SettingsFile)) :
    (file.elim (.ok {}) fun (path, file) => layerOf path file) =
      settle (fileFault? file) (fileLayer file) := by
  cases file with
  | none => rfl
  | some found =>
      obtain ⟨path, file⟩ := found
      cases file with
      | absent => rfl
      | unreadable cause => rfl
      | text content =>
          simp only [Option.elim_some, layerOf, fileFault?, fileLayer]
          cases Layer.ofToml? content <;> rfl

theorem readVariable_eq {α : Type} (setting : Setting) (decode : Text → Except Problem α)
    (name : Text) (environment : Environment) :
    ((environment.lookup setting.name).mapM decode).mapError (Fault.badVariable name) =
      settle ((environment.problem? setting decode).map (.badVariable name))
        (environment.given? setting decode) := by
  unfold problem? given?
  cases environment.lookup setting.name with
  | none => rfl
  | some text =>
      simp only [Option.mapM_some, Option.bind_some]
      cases decode text with
      | error problem => rfl
      | ok value => rfl

/-- In a plain environment, what is read for a setting is what its own variable decodes to. -/
theorem mapM_at?_key {α : Type} (plain : environment.IsPlain) (setting : Setting)
    (read : Value → Except Problem α) :
    (environment.at? setting.key).mapM read =
      (environment.lookup setting.name).mapM fun text => read (readValue setting.key text) := by
  rw [plain.at?_key]
  cases environment.lookup setting.name <;> rfl

/-- The variables are read one after the other. -/
theorem layerOfEnvironment_eq (global project : Option (Path × SettingsFile))
    (plain : environment.IsPlain) :
    layerOfEnvironment environment =
      settle
        ([Source.format, .extensions, .includeEmpty].findSome?
          (Source.fault? global project environment))
        ⟨environment.given? .format decodeFormat,
          ⟨environment.given? .extensions decodeExtensions,
            environment.given? .includeEmpty decodeIncludeEmpty⟩⟩ := by
  have format :
      environment.format = (environment.lookup Setting.format.name).mapM decodeFormat :=
    mapM_at?_key plain .format _
  have extensions :
      environment.extensions =
        (environment.lookup Setting.extensions.name).mapM decodeExtensions :=
    mapM_at?_key plain .extensions _
  have includeEmpty :
      environment.includeEmpty =
        (environment.lookup Setting.includeEmpty.name).mapM decodeIncludeEmpty :=
    mapM_at?_key plain .includeEmpty _
  rw [layerOfEnvironment, format, extensions, includeEmpty]
  simp only [readVariable_eq, settle_bind, settle_findSome?_cons]
  rfl

/-- What is loaded if nothing is wrong: the layers laid over each other. -/
theorem load_eq (plain : environment.IsPlain) :
    load global project environment =
      settle (Source.all.findSome? (Source.fault? global project environment))
        (((replace {} (fileLayer global)).merge (fileLayer project)).replace
          ⟨environment.given? .format decodeFormat,
            ⟨environment.given? .extensions decodeExtensions,
              environment.given? .includeEmpty decodeIncludeEmpty⟩⟩) := by
  rw [load, readLayer_eq, readLayer_eq, layerOfEnvironment_eq global project plain]
  simp only [settle_bind]
  rw [Source.all, settle_findSome?_cons, settle_findSome?_cons]
  rfl

/-- **The layers of settings.** In an environment whose only settings are variables with their usual
names,
- settings are loaded exactly if every source can be used;
- otherwise the fault of the first source that cannot is reported, whatever the others say;
- the format, and whether untagged comments are reported, are those of the highest layer that gives
  them, where the environment is above the project, the project above the global file, and the
  defaults are below all;
- the extensions are those of the environment if it gives any; else those of the global file or the
  default, with those of the project merged into them. -/
theorem load_precedence (global project : Option (Path × SettingsFile))
    (environment : Environment) (plain : environment.IsPlain) :
    ((∃ settings, load global project environment = .ok settings) ↔
      ∀ source : Source, source.Usable global project environment) ∧
    (∀ fault, load global project environment = .error fault ↔
      Source.all.findSome? (Source.fault? global project environment) = some fault) ∧
    ∀ settings, load global project environment = .ok settings →
      settings.format =
        (((environment.given? .format decodeFormat).or (fileLayer project).format).or
          (fileLayer global).format).getD .tree ∧
      settings.scan.includeEmpty =
        (((environment.given? .includeEmpty decodeIncludeEmpty).or
          (fileLayer project).scan.includeEmpty).or
          (fileLayer global).scan.includeEmpty).getD false ∧
      settings.scan.extensions =
        (environment.given? .extensions decodeExtensions).getD
          (let base := (fileLayer global).scan.extensions.getD [['p', 'h', 'p']]
          (fileLayer project).scan.extensions.elim base (ScanSettings.mergeItems base)) := by
  have usable : Source.all.findSome? (Source.fault? global project environment) = none ↔
      ∀ source : Source, source.Usable global project environment := by
    rw [List.findSome?_eq_none_iff]
    constructor
    · intro sound source
      exact Source.fault?_eq_none_iff.mp (sound source (Source.mem_all source))
    · intro usable source _
      exact Source.fault?_eq_none_iff.mpr (usable source)
  constructor
  · simp only [load_eq plain, settle_eq_ok_iff, exists_and_left, exists_eq', and_true]
    exact usable
  constructor
  · intro fault
    rw [load_eq plain, settle_eq_error_iff]
  · intro settings loaded
    rw [load_eq plain, settle_eq_ok_iff] at loaded
    obtain ⟨_, rfl⟩ := loaded
    constructor
    · simp [replace, merge, Option.getD_or]
    constructor
    · simp [replace, merge, ScanSettings.replace, ScanSettings.merge, Option.getD_or]
    · simp only [replace, merge, ScanSettings.replace, ScanSettings.merge]
      cases (fileLayer project).scan.extensions <;> rfl

/-- The project adds an extension to the global ones and takes one away, and the environment has the
last word on the format. Where the global file cannot be read, none of this counts. -/
theorem load_precedence_of_layers :
    let globalPath : Path := ⟨"hierardoc.toml".toList⟩
    let globalText := "scan.file_extensions=['inc','php']".toList
    let project : Option (Path × SettingsFile) :=
      some (⟨".hierardoc.toml".toList⟩,
        .text "format='tree'\nscan.file_extensions=['js','!inc']".toList)
    let environment : Environment :=
      [("HIERARDOC_FORMAT".toList, "Flat".toList), ("PATH".toList, "/bin".toList)]
    load (some (globalPath, .text globalText)) project environment =
        .ok ⟨.flat, ⟨["js".toList, "php".toList], false⟩⟩ ∧
      load (some (globalPath, .unreadable .permissionDenied)) project environment =
        .error (.unreadable globalPath .permissionDenied) := by
  intro globalPath globalText project environment
  have plain : environment.IsPlain := by
    constructor
    · decide
    · intro name listed
      have cases : name = "HIERARDOC_FORMAT".toList ∨ name = "PATH".toList := by
        simpa [environment, Assoc.names] using listed
      rcases cases with rfl | rfl
      · exact .inl ⟨.format, rfl⟩
      · exact .inr (by decide)
  have globalRead : Layer.ofToml? globalText =
      some ⟨none, ⟨some ["inc".toList, "php".toList], none⟩⟩ := by decide +kernel
  have projectRead : Layer.ofToml? "format='tree'\nscan.file_extensions=['js','!inc']".toList =
      some ⟨some .tree, ⟨some ["js".toList, "!inc".toList], none⟩⟩ := by decide +kernel
  have flat : environment.given? .format decodeFormat = some .flat := by decide
  have decoded : environment.Decodes .format decodeFormat ∧
      environment.Decodes .extensions decodeExtensions ∧
      environment.Decodes .includeEmpty decodeIncludeEmpty :=
    ⟨problem?_eq_none_iff.mp (by decide), problem?_eq_none_iff.mp (by decide),
      problem?_eq_none_iff.mp (by decide)⟩
  constructor
  · obtain ⟨loaded, -, decided⟩ :=
      load_precedence (some (globalPath, .text globalText)) project environment plain
    obtain ⟨settings, result⟩ := loaded.mpr fun source => by
      cases source with
      | globalFile => exact ⟨_, globalRead⟩
      | projectFile => exact ⟨_, projectRead⟩
      | format => exact decoded.1
      | extensions => exact decoded.2.1
      | includeEmpty => exact decoded.2.2
    obtain ⟨format, includeEmpty, extensions⟩ := decided settings result
    simp only [fileLayer, project, globalRead, projectRead, flat] at format includeEmpty extensions
    have format : settings.format = .flat := format
    have includeEmpty : settings.scan.includeEmpty = false := includeEmpty
    have extensions : settings.scan.extensions = ["js".toList, "php".toList] :=
      extensions.trans (List.mergeSort_of_pairwise (by decide))
    rw [result, ← format, ← includeEmpty, ← extensions]
  · exact ((load_precedence _ project environment plain).2.1 _).mpr rfl

end Settings

end DocTags
