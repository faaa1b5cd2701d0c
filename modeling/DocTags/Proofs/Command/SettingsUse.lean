/-
# Commands that read no setting

To ask where the settings files are looked for, for a completion script, for the template, or for a
value of a comment reads no setting, so that at sites that differ in their settings alone nothing but
a failure to load them can make a difference. The first two are answered without loading any; the
other two are tasks, and a task stops with exit code 78 where its settings cannot be loaded, whether
it reads them or not.
-/

import DocTags.Command.Sources
import DocTags.Proofs.Assoc
import DocTags.Proofs.Command.CommentTasks
import DocTags.Proofs.Command.Sites

namespace DocTags

/-! ## Tasks and commands -/

/-- The tasks in whose work no setting is read. -/
inductive Task.ReadsNoSetting : Task → Prop where
  | get (key : Text) (file : Option Path) : ReadsNoSetting (.get key file)
  | configTemplate : ReadsNoSetting .configTemplate

/-- The commands in whose work no setting is read. -/
inductive Command.ReadsNoSetting : Command → Prop where
  | work {task : Task} (reads : task.ReadsNoSetting) : ReadsNoSetting (.work task)
  | configPath : ReadsNoSetting .configPath
  | completion (shell : Shell) : ReadsNoSetting (.completion shell)

/-- The file that a command reads, if it reads one. -/
def Command.subject? : Command → Option Path
  | work task => task.subject?
  | _ => none

/-- A command is a task, and its settings cannot be loaded. -/
def Command.LacksSettings (world : World) (given : Option Path) : Command → Prop
  | work _ => ∃ projectDir fault,
      world.projectDir given = .ok projectDir ∧ world.settings projectDir = .error fault
  | _ => False

namespace Task.ReadsNoSetting

variable {task : Task}

/-- Under all settings the work is the same, and also at sites that differ in settings alone. -/
theorem perform_of_differ (reads : task.ReadsNoSetting) {given : Option Path} {site other : Site}
    (differ : site.DifferInSettings given other)
    (apart : ∀ path, task.subject? = some path → ¬ site.IsSettingsFile given path)
    (settings others : Settings) :
    task.perform other.world others = task.perform site.world settings := by
  cases reads with
  | get key file =>
      simp only [Task.perform, World.readTags_eq, differ.commentText apart]
  | configTemplate => rfl

/-- The work never fails for its settings. -/
theorem exitCode_ne (reads : task.ReadsNoSetting) {world : World} {settings : Settings}
    {fault : Fault} (stopped : task.perform world settings = .error fault) :
    fault.exitCode ≠ 78 := by
  cases reads with
  | get key file =>
      rcases bind_eq_error_iff.mp stopped with unread | ⟨tree, -, missing⟩
      · have code := World.exitCode_of_readTags unread
        omega
      · split at missing
        · cases missing
        · cases missing
          simp [Fault.exitCode]
  | configTemplate => cases stopped

end Task.ReadsNoSetting

namespace Command

variable {world : World} {command : Command} {given : Option Path} {projectDir : Path}

/-- A task without settings stops with the code for them. -/
theorem LacksSettings.perform (lacks : command.LacksSettings world given) :
    ∃ fault, ((world.projectDir given).bind fun projectDir => command.perform world projectDir) =
      .error fault ∧ fault.exitCode = 78 := by
  cases command with
  | work task =>
      obtain ⟨projectDir, fault, known, broken⟩ := lacks
      refine ⟨fault, ?_, World.exitCode_of_settings broken⟩
      rw [known, Except.bind, Command.perform, broken]
      rfl
  | configPath => exact lacks.elim
  | completion shell => exact lacks.elim

/-- Any other fault has another code. -/
theorem ReadsNoSetting.exitCode_ne (reads : command.ReadsNoSetting)
    (has : ¬ command.LacksSettings world given) {fault : Fault}
    (stopped : ((world.projectDir given).bind fun projectDir => command.perform world projectDir) =
      .error fault) : fault.exitCode ≠ 78 := by
  rcases bind_eq_error_iff.mp stopped with unknown | ⟨projectDir, known, stopped⟩
  · rw [World.exitCode_of_projectDir unknown]
    decide
  · cases reads with
    | work ofTask =>
        rcases bind_eq_error_iff.mp stopped with broken | ⟨settings, -, stopped⟩
        · exact absurd ⟨projectDir, fault, known, broken⟩ has
        · exact ofTask.exitCode_ne stopped
    | configPath => cases stopped
    | completion shell => cases stopped

/-- The settings of a task are loaded if they are not lacking. -/
theorem exists_settings {task : Task} (has : ¬ (work task).LacksSettings world given)
    (known : world.projectDir given = .ok projectDir) :
    ∃ settings, world.settings projectDir = .ok settings := by
  cases loaded : world.settings projectDir with
  | error fault => exact absurd ⟨projectDir, fault, known, loaded⟩ has
  | ok settings => exact ⟨settings, rfl⟩

/-- At sites that differ in settings alone, a command does the same if no settings are lacking. -/
theorem ReadsNoSetting.perform_of_differ (reads : command.ReadsNoSetting) {site other : Site}
    (differ : site.DifferInSettings given other)
    (apart : ∀ path, command.subject? = some path → ¬ site.IsSettingsFile given path)
    (has : ¬ command.LacksSettings site.world given)
    (otherHas : ¬ command.LacksSettings other.world given)
    (known : site.world.projectDir given = .ok projectDir) :
    command.perform other.world projectDir = command.perform site.world projectDir := by
  cases reads with
  | @work task ofTask =>
      obtain ⟨settings, loaded⟩ := exists_settings has known
      obtain ⟨others, otherLoaded⟩ :=
        exists_settings otherHas ((differ.projectDir given).trans known)
      have same := ofTask.perform_of_differ differ apart settings others
      simp only [Command.perform, loaded, otherLoaded, ok_bind, same]
  | configPath => simp only [Command.perform, differ.globalSettings, differ.coloured]
  | completion shell => rfl

end Command

/-! ## Sites with settings -/

/-- A settings file that a path leads to is read. -/
theorem SettingsFile.read_of_file {disk : Disk} {workingDir place : Place} {path : Path}
    {content : ByteArray} {text : Text}
    (leads : disk.resolve workingDir true path = .ok (place, .file content))
    (decoded : decodeText content = .ok text) :
    SettingsFile.read (disk.fileSystem workingDir) path = .text text := by
  simp only [SettingsFile.read, FileSystem.hasEntry, Disk.fileSystem, leads, Bool.true_or, if_true,
    ok_bind, decoded]

/-- Where a path leads nowhere, there is no settings file. -/
theorem SettingsFile.read_of_error {disk : Disk} {workingDir : Place} {path : Path}
    {fault : IoFault} (leads : disk.resolve workingDir true path = .error fault) :
    SettingsFile.read (disk.fileSystem workingDir) path = .absent := by
  simp only [SettingsFile.read, FileSystem.hasEntry, Disk.fileSystem, leads, Bool.or_self,
    Bool.false_eq_true, if_false]

namespace Site

/-- A path at which a global settings file may be looked for. -/
def globalFile : Path :=
  ⟨"/c/hierardoc/hierardoc.toml".toList⟩

/-- The settings file of a project at the root. -/
def rootFile : Path :=
  ⟨"/.hierardoc.toml".toList⟩

/-- The place of the global settings file. -/
def globalPlace : Place :=
  [['c'], "hierardoc".toList, "hierardoc.toml".toList]

/-- A site with a global settings file, a variable for the format, and a comment in a file. -/
def withSettings (content : String) (format : Text) : Site where
  disk := ⟨[([['c']], .dir), ([['c'], "hierardoc".toList], .dir),
    (globalPlace, .file content.toUTF8), ([['a']], .file "/** @k v */".toUTF8)]⟩
  place := []
  environment := [("XDG_CONFIG_HOME".toList, "/c".toList), (Settings.formatVariable, format)]
  accountHome := some ⟨['/']⟩
  workingDir := .ok ⟨['/']⟩
  input := .ok []

variable {content : String} {format : Text}

theorem resolve_globalFile :
    (withSettings content format).disk.resolve [] true globalFile =
      .ok (globalPlace, .file content.toUTF8) := by
  change Disk.walk _ true _ [] [[], ['c'], "hierardoc".toList, "hierardoc.toml".toList] = _
  rw [Disk.walk_empty rfl, Disk.walk_name rfl (by decide) (by decide) (by rintro target ⟨⟩),
    Disk.walk_name rfl (by decide) (by decide) (by rintro target ⟨⟩),
    Disk.walk_name rfl (by decide) (by decide) (by rintro target ⟨⟩)]
  exact Disk.walk_nil rfl

theorem resolve_rootFile :
    (withSettings content format).disk.resolve [] true rootFile = .error .notFound := by
  change Disk.walk _ true _ [] [[], ".hierardoc.toml".toList] = _
  rw [Disk.walk_empty rfl, Disk.walk_name rfl (by decide) (by decide) (by rintro target ⟨⟩)]
  exact Disk.walk_absent rfl

theorem resolve_source :
    (withSettings content format).disk.resolve [] true ⟨['a']⟩ =
      .ok ([['a']], .file "/** @k v */".toUTF8) := by
  change Disk.walk _ true _ [] [['a']] = _
  rw [Disk.walk_name rfl (by decide) (by decide) (by rintro target ⟨⟩)]
  exact Disk.walk_nil rfl

/-- The only settings file is the global one. -/
theorem isSettingsPlace_iff {place : Place} :
    (withSettings content format).IsSettingsPlace none place ↔ place = globalPlace := by
  have paths : (withSettings content format).settingsPaths none = [globalFile, rootFile] := rfl
  have start : (withSettings content format).place = [] := rfl
  simp only [IsSettingsPlace, paths, start, List.mem_cons, List.not_mem_nil, or_false,
    exists_eq_or_imp, exists_eq_left, Disk.LeadsTo, resolve_globalFile, resolve_rootFile]
  simp [eq_comm]

/-- The settings that the content of the file and the variable give. -/
def loadedSettings (content : String) (format : Text) : Except Settings.Fault Settings :=
  Settings.load (some (globalFile, .text content.toList)) (some (rootFile, .absent))
    (withSettings content format).environment

theorem decodeText_toUTF8 (content : String) : decodeText content.toUTF8 = .ok content.toList := by
  simp only [decodeText, Text.ofUtf8?, String.fromUTF8?, String.toUTF8_eq_toByteArray,
    dif_pos content.isValidUTF8]
  rfl

theorem settings_withSettings :
    (withSettings content format).world.settings ⟨['/']⟩ =
      (loadedSettings content format).mapError fun fault => .settings fault.message := by
  have global : SettingsFile.read (withSettings content format).world.files globalFile =
      .text content.toList :=
    SettingsFile.read_of_file resolve_globalFile (decodeText_toUTF8 content)
  have own : SettingsFile.read (withSettings content format).world.files rootFile = .absent :=
    SettingsFile.read_of_error resolve_rootFile
  rw [loadedSettings, ← global, ← own]
  rfl

/-- The settings of a task are lacking if they are not loaded. -/
theorem lacksSettings_iff {task : Task} :
    (Command.work task).LacksSettings (withSettings content format).world none ↔
      (loadedSettings content format).isOk = false := by
  refine ⟨fun ⟨projectDir, fault, known, broken⟩ => ?_, fun fails => ?_⟩
  · obtain rfl : ⟨['/']⟩ = projectDir := Except.ok.inj known
    rw [settings_withSettings, mapError_eq_error_iff] at broken
    obtain ⟨cause, failed, -⟩ := broken
    rw [failed]
    rfl
  · cases result : loadedSettings content format with
    | ok settings => simp [result, Except.isOk, Except.toBool] at fails
    | error cause =>
        refine ⟨⟨['/']⟩, .settings cause.message, rfl, ?_⟩
        rw [settings_withSettings, result]
        rfl

/-- Sites with other contents and another variable differ in settings alone. -/
theorem differInSettings_withSettings (content others : String) (format other : Text) :
    (withSettings content format).DifferInSettings none (withSettings others other) where
  disk place := by
    by_cases settings : place = globalPlace
    · subst settings
      exact Or.inr ⟨isSettingsPlace_iff.mpr rfl, content.toUTF8, others.toUTF8, by rfl, by rfl⟩
    · left
      simp only [withSettings, Disk.entry?, Assoc.lookup_cons_eq_ite, if_neg settings]
  environment name plain := by
    have differs : name ≠ Settings.formatVariable := by
      rintro rfl
      exact absurd plain (by decide)
    simp only [withSettings, Assoc.lookup_cons_eq_ite, if_neg differs]
  place := rfl
  accountHome := rfl
  workingDir := rfl
  input := rfl

/-- The comment is in no settings file. -/
theorem not_isSettingsFile_source : ¬ (withSettings content format).IsSettingsFile none ⟨['a']⟩ := by
  rintro ⟨place, ⟨entry, leads⟩, settings⟩
  have there : (withSettings content format).disk.resolve [] true ⟨['a']⟩ = .ok (place, entry) :=
    leads
  rw [resolve_source, isSettingsPlace_iff.mp settings] at there
  cases there

/-- The arguments of a lookup in the file. -/
def lookupArguments : List Text :=
  [['g', 'e', 't'], ['k'], ['a']]

theorem read_lookupArguments :
    Invocation.read lookupArguments =
      .ok ⟨0, none, some (.work (.get ['k'] (some ⟨['a']⟩)))⟩ := by
  rfl

/-- Where the settings are loaded, the tag of the comment is reached. -/
theorem exists_reaches (loads : (loadedSettings content format).isOk) :
    ∃ settings, (withSettings content format).world.Reaches none (some ⟨['a']⟩) settings
      ([] ++ ⟨['k'], ['v']⟩ :: []) := by
  cases result : loadedSettings content format with
  | error cause => simp [result, Except.isOk, Except.toBool] at loads
  | ok settings =>
      have readable : (withSettings content format).world.commentText (some ⟨['a']⟩) =
          .ok "/** @k v */".toList := by
        change ((withSettings content format).disk.fileSystem []).readText ⟨['a']⟩ = _
        simp only [Disk.fileSystem, resolve_source, ok_bind]
        exact decodeText_toUTF8 _
      refine ⟨settings, ⟨⟨['/']⟩, rfl, ?_⟩, ⟨_, " @k v ".toList, readable, by decide, by decide⟩⟩
      rw [settings_withSettings, result]
      rfl

end Site

/-! ## Runs -/

section

variable {arguments : List Text} {invocation : Invocation} {command : Command}

/-- In every world the exit code tells whether the settings are lacking. -/
theorem World.exitCode_eq_iff (world : World)
    (understood : Invocation.read arguments = .ok invocation)
    (asked : invocation.command = some command) (reads : command.ReadsNoSetting) :
    (world.run arguments).exitCode = 78 ↔ command.LacksSettings world invocation.projectDir := by
  rw [run_of_read understood]
  refine ⟨fun code => ?_, fun lacks => ?_⟩
  · refine Classical.byContradiction fun has => ?_
    cases performed : invocation.perform world with
    | ok printout =>
        rw [(Invocation.run_of_done performed).1] at code
        cases code
    | error fault =>
        rw [(Invocation.run_of_stopped performed).1] at code
        rw [Invocation.perform_of_command asked] at performed
        exact reads.exitCode_ne has performed code
  · obtain ⟨fault, stopped, code⟩ := lacks.perform
    rw [← Invocation.perform_of_command asked] at stopped
    rw [(Invocation.run_of_stopped stopped).1, code]

/-- **Settings that are not read.** At sites that differ in settings alone, a command that reads no
setting runs alike, as long as no settings file is the file that it reads and the settings of a task
are lacking at neither site. Where they are lacking, and only there, it ends with exit code 78. -/
theorem Site.run_eq_of_differInSettings {site other : Site}
    (understood : Invocation.read arguments = .ok invocation)
    (asked : invocation.command = some command) (reads : command.ReadsNoSetting)
    (differ : site.DifferInSettings invocation.projectDir other)
    (apart : ∀ path, command.subject? = some path →
      ¬ site.IsSettingsFile invocation.projectDir path) :
    (¬ command.LacksSettings site.world invocation.projectDir →
      ¬ command.LacksSettings other.world invocation.projectDir →
        other.world.run arguments = site.world.run arguments) ∧
      ∀ world : World, (world.run arguments).exitCode = 78 ↔
        command.LacksSettings world invocation.projectDir := by
  refine ⟨fun has otherHas => ?_, fun world => world.exitCode_eq_iff understood asked reads⟩
  have same : invocation.perform other.world = invocation.perform site.world := by
    rw [Invocation.perform_of_command asked, Invocation.perform_of_command asked, differ.projectDir]
    cases known : site.world.projectDir invocation.projectDir with
    | error fault => rfl
    | ok projectDir => exact reads.perform_of_differ differ apart has otherHas known
  rw [World.run_of_read understood, World.run_of_read understood, Invocation.run, Invocation.run,
    same, differ.coloured]

end

namespace Site

/-- Two settings files and two variables make no difference to a lookup. -/
theorem run_eq_of_differInSettings_of_formats :
    (withSettings "format = \"flat\"" "tree".toList).world.run lookupArguments =
      (withSettings "format = \"json\"" "flat".toList).world.run lookupArguments := by
  have apart : ∀ path, (Command.work (.get ['k'] (some ⟨['a']⟩))).subject? = some path →
      ¬ (withSettings "format = \"json\"" "flat".toList).IsSettingsFile none path := by
    intro path subject
    obtain rfl : ⟨['a']⟩ = path := Option.some.inj subject
    exact not_isSettingsFile_source
  refine (run_eq_of_differInSettings read_lookupArguments rfl (.work (.get _ _))
    (differInSettings_withSettings _ _ _ _) apart).1 ?_ ?_
  · rw [lacksSettings_iff]
    decide +kernel
  · rw [lacksSettings_iff]
    decide +kernel

/-- A variable without meaning stops a lookup that another value of the variable does not stop. -/
theorem run_of_format_without_meaning :
    (withSettings "" "json".toList).DifferInSettings none (withSettings "" "xml".toList) ∧
      (((withSettings "" "json".toList).world.run lookupArguments).exitCode = 0 ∧
        ((withSettings "" "json".toList).world.run lookupArguments).output = ['v', '\n']) ∧
      ((withSettings "" "xml".toList).world.run lookupArguments).exitCode = 78 := by
  refine ⟨differInSettings_withSettings _ _ _ _, ?_, ?_⟩
  · have loads : (loadedSettings "" "json".toList).isOk := by decide +kernel
    obtain ⟨settings, reaches⟩ := exists_reaches loads
    rw [World.run_of_read read_lookupArguments]
    exact Invocation.run_of_ends rfl (.found reaches (by simp))
  · have fails : (loadedSettings "" "xml".toList).isOk = false := by decide +kernel
    exact (World.exitCode_eq_iff _ read_lookupArguments rfl (.work (.get _ _))).mpr
      (lacksSettings_iff.mpr fails)

end Site

end DocTags
