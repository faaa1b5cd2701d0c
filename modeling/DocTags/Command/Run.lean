/-
# Running commands

A command is run against a world: the files, the environment, and the standard input. What comes
out is an exit code and what is written to the two output streams, except for the log: its lines,
which share the error stream and of which those from warnings upwards are always shown, are left
out. A command that fails writes nothing to the standard output.

A task is done under settings, which are loaded first whether the task uses them or not. Where the
settings are looked for and the completion scripts can be asked for beside a broken settings file.
-/

import DocTags.Command.Help
import DocTags.Command.Terminal
import DocTags.Scan.Render
import DocTags.Settings.Load
import DocTags.Settings.Template

namespace DocTags

/-- What a command sees of the world around it. -/
structure World where
  files : FileSystem
  environment : Environment
  /-- The home directory that the system knows for the user. -/
  accountHome : Option Path
  workingDir : Except IoFault Path
  input : Except IoFault Text

/-- What a run leaves behind: its exit code, what it writes to the standard output, and its own
messages on the error stream, which are errors and warnings. The lines of the log that stand on the
same stream are no part of it. -/
structure Outcome where
  exitCode : Nat
  output : Text
  errors : Text
deriving DecidableEq

/-- What a command that succeeds writes. -/
structure Printout where
  output : Text
  warnings : Text := []
deriving DecidableEq

/-- The file that a comment is read from, if it is not read from the standard input, which a
hyphen stands for. -/
def commentFile? (file : Option Path) : Option Path :=
  file.filter fun path => !path.same ⟨['-']⟩

namespace World

/-- Whether labels are coloured. -/
def coloured (world : World) : Bool :=
  world.environment.forcesColour

/-- The home directory of the user. -/
def home (world : World) : Option Path :=
  match world.environment.lookup "HOME".toList with
  | some (c :: rest) => some ⟨c :: rest⟩
  | _ => world.accountHome

/-- The directory for the settings of all programs, for a user with a home directory. It may be
set, if to a path from the root. -/
def configHome (world : World) : Option Path :=
  world.home.map fun home =>
    match world.environment.lookup "XDG_CONFIG_HOME".toList with
    | some dir => if Path.isAbsolute ⟨dir⟩ then ⟨dir⟩ else home.join ⟨".config".toList⟩
    | none => home.join ⟨".config".toList⟩

/-- Where the global settings file is looked for. -/
def globalSettings (world : World) : Option Path :=
  world.configHome.map fun dir =>
    (dir.join ⟨"hierardoc".toList⟩).join ⟨"hierardoc.toml".toList⟩

/-- The directory of the project, which is the working directory unless another one is given. -/
def projectDir (world : World) (given : Option Path) : Except Fault Path :=
  match given with
  | some dir => .ok dir
  | none => world.workingDir.mapError (.stream "resolve current directory".toList)

/-- Where the settings file of a project is looked for. -/
def projectSettings (projectDir : Path) : Path :=
  projectDir.join ⟨".hierardoc.toml".toList⟩

/-- The settings in force in a project directory. -/
def settings (world : World) (projectDir : Path) : Except Fault Settings :=
  let file (path : Path) : Path × SettingsFile := (path, .read world.files path)
  (Settings.load (world.globalSettings.map file) (some (file (projectSettings projectDir)))
    world.environment).mapError fun fault => .settings fault.message

/-- The comment on the standard input. -/
def inputTags (world : World) : Except Fault Tree := do
  let text ← world.input.mapError (.stream "read stdin".toList)
  (Comment.parseTrimmed text).mapError (·.fault)

/-- The comment in a file or on the standard input. -/
def readTags (world : World) (file : Option Path) : Except Fault Tree :=
  match commentFile? file with
  | none => world.inputTags
  | some path => world.files.parseFile path

end World

/-- Whether an extension given for a scan means something: it is not empty and not of dots only. -/
def isExtension (text : Text) : Bool :=
  text.any (· != '.')

/-- The settings for a scan under the options of its command. -/
def ScanSettings.withOptions (base : ScanSettings) (extensions : List Text) (includeEmpty : Bool) :
    Except Fault ScanSettings :=
  if extensions.all isExtension then
    .ok {
      extensions := if extensions = [] then base.extensions else extensions
      includeEmpty := base.includeEmpty || includeEmpty }
  else .error (.badArgument "--ext needs a non-empty extension such as `php`".toList)

/-- What a scan writes. Only the JSON format has no heading. -/
def Report.print (coloured : Bool) (format : Format) (report : Report) : Printout where
  output :=
    (if format = .json then []
      else
        Style.heading.paint coloured
          (Text.ofNat report.found.length ++ " doc comment(s) in ".toList ++
            Text.ofNat report.filesScanned ++ " file(s)".toList) ++ ['\n']) ++
      report.render format ++ ['\n']
  warnings :=
    if report.filesSkipped = 0 then []
    else
      labelled .warning coloured "Warning".toList
        (Text.ofNat report.filesSkipped ++
          " unreadable file(s) skipped, run with -d for details".toList)

/-- Do a task under given settings. -/
def Task.perform (world : World) (settings : Settings) : Task → Except Fault Printout
  | parse file format => do
    let tags ← world.readTags file
    let label := (file.map Path.text).getD "<stdin>".toList
    return { output := tags.render label (format.getD settings.format) ++ ['\n'] }
  | get key file => do
    let tags ← world.readTags file
    match tags.lookup key with
    | some value => return { output := value ++ ['\n'] }
    | none => .error (.noValue key)
  | scan path format extensions includeEmpty => do
    let scanSettings ← settings.scan.withOptions extensions includeEmpty
    let report ← world.files.scan scanSettings path
    return report.print world.coloured (format.getD settings.format)
  | configShow => return { output := settings.toToml ++ ['\n'] }
  | configTemplate => return { output := Settings.template ++ ['\n'] }

/-- Run a command in a project directory. -/
def Command.perform (world : World) (projectDir : Path) : Command → Except Fault Printout
  | work task => do
    let settings ← world.settings projectDir
    task.perform world settings
  | configPath => return {
      output :=
        labelled .action world.coloured "global".toList
            ((world.globalSettings.map Path.text).getD "<unavailable>".toList) ++
          labelled .action world.coloured "local".toList (World.projectSettings projectDir).text }
  | completion shell => return { output := shell.completion }

namespace Invocation

/-- Run what the arguments ask for. -/
def perform (world : World) (invocation : Invocation) : Except Fault Printout := do
  let projectDir ← world.projectDir invocation.projectDir
  match invocation.command with
  | none => .error (.usage "no command given, run with --help for usage".toList)
  | some command => command.perform world projectDir

/-- The warning about more messages than there are. -/
def verbosityWarning (coloured : Bool) (invocation : Invocation) : Text :=
  if invocation.verbosity < 4 then []
  else labelled .warning coloured "Warning".toList "Don't be crazy, max is -d -d -d".toList

/-- Run what the arguments ask for and report how it went. -/
def run (world : World) (invocation : Invocation) : Outcome :=
  let warning := invocation.verbosityWarning world.coloured
  match invocation.perform world with
  | .ok printout => ⟨0, printout.output, warning ++ printout.warnings⟩
  | .error fault =>
    ⟨fault.exitCode, [],
      warning ++ labelled .error world.coloured "error".toList fault.message⟩

end Invocation

/-- What comes of arguments that ask for help, for the version, or for nothing that is known. The
text about arguments that are not known is a stand-in, as that of the help is: the exit code is
meant, and that it is the error stream that says something. -/
def Stop.outcome : Stop → Outcome
  | .help level => ⟨0, level.help, []⟩
  | .version level => ⟨0, level.version, []⟩
  | .rejected => ⟨2, [], "error: unexpected arguments, run with --help for usage\n".toList⟩

/-- Run the program with its arguments. -/
def World.run (world : World) (arguments : List Text) : Outcome :=
  match Invocation.read arguments with
  | .ok invocation => invocation.run world
  | .error stop => stop.outcome

end DocTags
