/-
# Runs that fail

A run is taken apart into its steps, in the order in which they write: the warning about messages
first, then what a task warns about, then a heading, and then the result. Whatever is read, looked
up or put into words on the way can fail, the writing of JSON and of TOML included.

The steps are careful: all that can fail is done before anything is written to the standard output.
So a run that fails prints no data, and would print none if JSON or TOML could not be written, which
the program can always do. With its ways to write them, the steps do what a run does.
-/

import DocTags.Proofs.Command.ScanTask
import DocTags.Proofs.Command.Writing

namespace DocTags

/-! ## Steps -/

/-- How JSON values and settings become texts. This may fail. -/
structure Encoders where
  json : Json → Except Fault Text
  toml : Settings → Except Fault Text

namespace Encoders

/-- The encoders of the program, which do not fail. -/
def standard : Encoders where
  json value := .ok value.pretty
  toml settings := .ok settings.toToml

/-- A tree in a format. -/
def tree (encoders : Encoders) (label : Text) (format : Format) (tree : Tree) : Except Fault Text :=
  match format with
  | .json => encoders.json tree.toJson
  | .tree => .ok (tree.draw label)
  | .flat => .ok tree.flat

/-- A report in a format. -/
def report (encoders : Encoders) (format : Format) (report : Report) : Except Fault Text :=
  match format with
  | .json => encoders.json report.toJson
  | .tree => .ok (report.render .tree)
  | .flat => .ok (report.render .flat)

theorem tree_standard (label : Text) (format : Format) (tree : Tree) :
    standard.tree label format tree = .ok (tree.render label format) := by
  cases format <;> rfl

theorem report_standard (format : Format) (report : Report) :
    standard.report format report = .ok (report.render format) := by
  cases format <;> rfl

end Encoders

open Writing

/-- The heading of a report. -/
def Report.heading (coloured : Bool) (report : Report) : Text :=
  Style.heading.paint coloured
    (Text.ofNat report.found.length ++ " doc comment(s) in ".toList ++
      Text.ofNat report.filesScanned ++ " file(s)".toList) ++ ['\n']

/-- Write a report: its warning, its heading unless it is in JSON, and its text. -/
def Report.write (encoders : Encoders) (coloured : Bool) (format : Format) (report : Report) :
    Writing Unit := do
  warn (if report.filesSkipped = 0 then [] else skipWarning coloured report.filesSkipped)
  if format = .json then pure () else say (report.heading coloured)
  let text ← need (encoders.report format report)
  say (text ++ ['\n'])

/-- Do a task step by step. -/
def Task.write (encoders : Encoders) (world : World) (settings : Settings) : Task → Writing Unit
  | parse file format => do
    let tags ← need (world.readTags file)
    let label := (file.map Path.text).getD "<stdin>".toList
    let text ← need (encoders.tree label (format.getD settings.format) tags)
    say (text ++ ['\n'])
  | get key file => do
    let tags ← need (world.readTags file)
    let value ← need ((tags.lookup key).elim (.error (.noValue key)) .ok)
    say (value ++ ['\n'])
  | scan path format extensions includeEmpty => do
    let scanSettings ← need (settings.scan.withOptions extensions includeEmpty)
    let report ← need (world.files.scan scanSettings path)
    report.write encoders world.coloured (format.getD settings.format)
  | configShow => do
    let text ← need (encoders.toml settings)
    say (text ++ ['\n'])
  | configTemplate => say (Settings.template ++ ['\n'])

/-- Run a command step by step. -/
def Command.write (encoders : Encoders) (world : World) (projectDir : Path) : Command → Writing Unit
  | work task => do
    let settings ← need (world.settings projectDir)
    task.write encoders world settings
  | configPath => do
    say (labelled .action world.coloured "global".toList
      ((world.globalSettings.map Path.text).getD "<unavailable>".toList))
    say (labelled .action world.coloured "local".toList (World.projectSettings projectDir).text)
  | completion shell => say shell.completion

/-- Run what the arguments ask for step by step. -/
def Invocation.write (encoders : Encoders) (world : World) (invocation : Invocation) :
    Writing Unit := do
  warn (invocation.verbosityWarning world.coloured)
  let projectDir ← need (world.projectDir invocation.projectDir)
  let command ← need (invocation.command.elim
    (.error (.usage "no command given, run with --help for usage".toList)) .ok)
  command.write encoders world projectDir

/-- Write a result all at once. -/
def Writing.atOnce (result : Except Fault Printout) : Writing Unit := do
  let printout ← need result
  warn printout.warnings
  say printout.output

theorem Writing.after_atOnce_ok (printout : Printout) (streams : Streams) :
    (atOnce (.ok printout)).after streams =
      (.ok (), ⟨streams.output ++ printout.output, streams.errors ++ printout.warnings⟩) := by
  simp [atOnce, after_bind]

theorem Writing.after_atOnce_error (fault : Fault) (streams : Streams) :
    (atOnce (.error fault)).after streams = (.error fault, streams) := by
  simp [atOnce, after_bind]

theorem Report.write_standard (coloured : Bool) (format : Format) (report : Report)
    (streams : Streams) :
    (report.write .standard coloured format).after streams =
      (atOnce (.ok (report.print coloured format))).after streams := by
  have output : (report.print coloured format).output =
      (if format = .json then [] else report.heading coloured) ++ report.render format ++ ['\n'] :=
    rfl
  rw [after_atOnce_ok, output, warnings_print]
  cases format <;> simp [write, after_bind, Encoders.report_standard]

theorem Task.write_standard (world : World) (settings : Settings) (task : Task)
    (streams : Streams) :
    (task.write .standard world settings).after streams =
      (atOnce (task.perform world settings)).after streams := by
  cases task with
  | parse file format =>
      cases read : world.readTags file <;>
        simp [write, perform, after_atOnce_ok, after_atOnce_error, after_bind, read,
          Encoders.tree_standard, pure_eq_ok]
  | get key file =>
      cases read : world.readTags file with
      | error fault => simp [write, perform, after_atOnce_error, after_bind, read]
      | ok tags =>
          cases found : tags.lookup key <;>
            simp [write, perform, after_atOnce_ok, after_atOnce_error, after_bind, read, found,
              pure_eq_ok]
  | scan path format extensions includeEmpty =>
      cases taken : settings.scan.withOptions extensions includeEmpty with
      | error fault => simp [write, perform, after_atOnce_error, after_bind, taken]
      | ok scanSettings =>
          cases made : world.files.scan scanSettings path with
          | error fault => simp [write, perform, after_atOnce_error, after_bind, taken, made]
          | ok report =>
              simp [write, perform, after_bind, taken, made, pure_eq_ok, Report.write_standard]
  | configShow =>
      simp [write, perform, after_atOnce_ok, after_bind, Encoders.standard, pure_eq_ok]
  | configTemplate => simp [write, perform, after_atOnce_ok, pure_eq_ok]

theorem Command.write_standard (world : World) (projectDir : Path) (command : Command)
    (streams : Streams) :
    (command.write .standard world projectDir).after streams =
      (atOnce (command.perform world projectDir)).after streams := by
  cases command with
  | work task =>
      cases loaded : world.settings projectDir <;>
        simp [write, perform, after_atOnce_error, after_bind, loaded, Task.write_standard]
  | configPath => simp [write, perform, after_atOnce_ok, after_bind, pure_eq_ok]
  | completion shell => simp [write, perform, after_atOnce_ok, pure_eq_ok]

theorem Invocation.write_standard (world : World) (invocation : Invocation) (streams : Streams) :
    (invocation.write .standard world).after streams =
      (atOnce (invocation.perform world)).after { streams with
        errors := streams.errors ++ invocation.verbosityWarning world.coloured } := by
  cases known : world.projectDir invocation.projectDir with
  | error fault => simp [write, perform, after_atOnce_error, after_bind, known]
  | ok projectDir =>
      cases asked : invocation.command <;>
        simp [write, perform, after_atOnce_error, after_bind, known, asked, Command.write_standard]

/-- A warning is a whole line, and so is none. -/
theorem wholeLines_unless (needless : Prop) [Decidable needless] (style : Style) (coloured : Bool)
    (label text : Text) :
    Text.WholeLines (if needless then [] else labelled style coloured label text) := by
  split
  · exact Or.inl rfl
  · exact Or.inr ⟨_, rfl⟩

/-- To put a result into words and to write it is careful. -/
theorem careful_need_say (text : Except Fault Text) :
    (need text >>= fun text => say (text ++ ['\n'])).Careful :=
  (silent_need text).bind fun _ => (certain_say _).careful

variable (encoders : Encoders) (world : World)

/-- A report in JSON has no heading, and one in another format cannot fail. -/
theorem Report.careful_write (coloured : Bool) (format : Format) (report : Report) :
    (report.write encoders coloured format).Careful := by
  refine (silent_warn (wholeLines_unless _ _ _ _ _)).bind fun _ => ?_
  cases format with
  | json => exact (silent_pure ()).bind fun _ => careful_need_say _
  | tree | flat =>
      refine ((certain_say _).bind fun _ => ?_).careful
      exact (certain_need _).bind fun text => certain_say _

theorem Task.careful_write (settings : Settings) (task : Task) :
    (task.write encoders world settings).Careful := by
  cases task with
  | parse file format => exact (silent_need _).bind fun tags => careful_need_say _
  | get key file => exact (silent_need _).bind fun tags => careful_need_say _
  | scan path format extensions includeEmpty =>
      exact (silent_need _).bind fun scanSettings => (silent_need _).bind fun report =>
        report.careful_write encoders world.coloured _
  | configShow => exact careful_need_say _
  | configTemplate => exact (certain_say _).careful

theorem Command.careful_write (projectDir : Path) (command : Command) :
    (command.write encoders world projectDir).Careful := by
  cases command with
  | work task =>
      exact (silent_need _).bind fun settings => task.careful_write encoders world settings
  | configPath => exact ((certain_say _).bind fun _ => certain_say _).careful
  | completion shell => exact (certain_say _).careful

theorem Invocation.careful_write (invocation : Invocation) :
    (invocation.write encoders world).Careful :=
  (silent_warn (wholeLines_unless _ _ _ _ _)).bind fun _ =>
    (silent_need _).bind fun projectDir => (silent_need _).bind fun command =>
      command.careful_write encoders world projectDir

/-! ## What a failed run leaves behind -/

end DocTags
