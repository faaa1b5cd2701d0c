/-
# Reading arguments

The arguments are read from left to right. A name of a command leads to the level of that command,
where other options and operands are known; the options for messages and for the project directory
are known at every level, and of several levels the innermost one that gives such an option decides.

An option is written by its long name behind two hyphens or by its letter behind one. Letters may
be joined, and the value of an option is joined to it, with or without an equals sign, or is the
next argument, if that does not look like an option. Behind two hyphens alone everything is an
operand. Asking for help or for the version ends the reading where it is met; anything that is not
understood ends it as well.
-/

import DocTags.Command.Basic

namespace DocTags

/-- A level of commands: the program, a command, or a command of a command. -/
inductive Level where
  | program
  | parse
  | get
  | scan
  | config
  | configShow
  | configTemplate
  | configPath
  | completion
deriving DecidableEq

/-- An option. -/
inductive Flag where
  | debug
  | projectDir
  | format
  | extension
  | includeEmpty
  | help
  | version
deriving DecidableEq

namespace Flag

/-- The long name of an option. -/
def long : Flag → Text
  | debug => "debug".toList
  | projectDir => "project-dir".toList
  | format => "format".toList
  | extension => "ext".toList
  | includeEmpty => "include-empty".toList
  | help => "help".toList
  | version => "version".toList

/-- The letter of an option, if it has one. -/
def short? : Flag → Option Char
  | debug => some 'd'
  | projectDir => some 'C'
  | format => some 'f'
  | extension => some 'e'
  | includeEmpty => none
  | help => some 'h'
  | version => some 'V'

/-- Whether an option has a value. -/
def takesValue : Flag → Bool
  | projectDir | format | extension => true
  | debug | includeEmpty | help | version => false

end Flag

/-- What an operand stands for. -/
inductive Operand where
  | path
  | key
  | shell
deriving DecidableEq

/-- Whether a text can be an operand. -/
def Operand.accepts (operand : Operand) (text : Text) : Bool :=
  match operand with
  | path => !text.isEmpty
  | key => true
  | shell => (Shell.ofName? text).isSome

namespace Level

/-- The names that lead to a level. -/
def names : Level → List Text
  | program => ["hierardoc".toList]
  | parse => ["hierardoc".toList, "parse".toList]
  | get => ["hierardoc".toList, "get".toList]
  | scan => ["hierardoc".toList, "scan".toList]
  | config => ["hierardoc".toList, "config".toList]
  | configShow => ["hierardoc".toList, "config".toList, "show".toList]
  | configTemplate => ["hierardoc".toList, "config".toList, "template".toList]
  | configPath => ["hierardoc".toList, "config".toList, "path".toList]
  | completion => ["hierardoc".toList, "completion".toList]

/-- The levels below a level, by name. -/
def commands : Level → List (Text × Level)
  | program => [("parse".toList, parse), ("get".toList, get), ("scan".toList, scan),
      ("config".toList, config), ("completion".toList, completion)]
  | config => [("show".toList, configShow), ("template".toList, configTemplate),
      ("path".toList, configPath)]
  | _ => []

/-- The options that are known at a level. -/
def flags : Level → List Flag
  | parse => [.format, .debug, .projectDir, .help, .version]
  | scan => [.format, .extension, .includeEmpty, .debug, .projectDir, .help, .version]
  | _ => [.debug, .projectDir, .help, .version]

/-- The operands of a level in their order. -/
def operands : Level → List Operand
  | parse => [.path]
  | get => [.key, .path]
  | scan => [.path]
  | completion => [.shell]
  | _ => []

/-- How many operands a level needs. -/
def needed : Level → Nat
  | get | scan | completion => 1
  | _ => 0

/-- The option with a long name. -/
def longFlag? (level : Level) (name : Text) : Option Flag :=
  level.flags.find? fun flag => flag.long == name

/-- The option with a letter. -/
def shortFlag? (level : Level) (letter : Char) : Option Flag :=
  level.flags.find? fun flag => flag.short? == some letter

end Level

/-- Why the reading of arguments ended before they were all read. -/
inductive Stop where
  | help (level : Level)
  | version (level : Level)
  | rejected
deriving DecidableEq

/-- What has been given at a level. -/
structure Given where
  debug : Option Nat := none
  projectDir : Option Path := none
  format : Option Format := none
  extensions : List Text := []
  includeEmpty : Bool := false
  operands : List Text := []

/-- What is left to do for an option: nothing, to find its value, or to take the value over. -/
inductive Pending where
  | nothing
  | expects (flag : Flag)
  | holds (flag : Flag) (value : Text)

/-- The state of reading at a level. -/
structure Frame where
  level : Level
  given : Given := {}
  pending : Pending := .nothing

namespace Given

/-- Take over the value of an option. Only extensions may be given several times. -/
def withValue (given : Given) (flag : Flag) (value : Text) : Except Stop Given :=
  match flag with
  | .projectDir =>
    if given.projectDir.isSome ∨ value = [] then .error .rejected
    else .ok { given with projectDir := some ⟨value⟩ }
  | .format =>
    match given.format, Format.ofName? value with
    | none, some format => .ok { given with format := some format }
    | _, _ => .error .rejected
  | .extension => .ok { given with extensions := given.extensions ++ [value] }
  | _ => .error .rejected

/-- Take over an option without a value. -/
def withFlag (given : Given) (level : Level) (flag : Flag) : Except Stop Given :=
  match flag with
  | .debug => .ok { given with debug := some (given.debug.getD 0 + 1) }
  | .includeEmpty =>
    if given.includeEmpty then .error .rejected else .ok { given with includeEmpty := true }
  | .help => .error (.help level)
  | .version => .error (.version level)
  | _ => .error .rejected

end Given

namespace Frame

/-- Finish the option that was read last. -/
def settle (frame : Frame) : Except Stop Frame :=
  match frame.pending with
  | .nothing => .ok frame
  | .expects _ => .error .rejected
  | .holds flag value => do
    let given ← frame.given.withValue flag value
    return { frame with given, pending := .nothing }

/-- Read joined letters. What follows the letter of an option with a value is the value. -/
def letters (frame : Frame) : Text → Except Stop Frame
  | [] => .ok frame
  | letter :: rest =>
    match frame.level.shortFlag? letter with
    | none => .error .rejected
    | some flag =>
      if flag.takesValue then
        match rest with
        | [] => .ok { frame with pending := .expects flag }
        | '=' :: value => do
          return { frame with given := ← frame.given.withValue flag value }
        | value => do
          return { frame with given := ← frame.given.withValue flag value }
      else
        match frame.given.withFlag frame.level flag with
        | .ok given => letters { frame with given } rest
        | .error stop => .error stop

/-- Read a long name, which may have an equals sign and a value behind it. -/
def longName (frame : Frame) (text : Text) : Except Stop Frame :=
  match frame.level.longFlag? (text.takeWhile (· != '=')), text.dropWhile (· != '=') with
  | none, _ => .error .rejected
  | some flag, [] =>
    if flag.takesValue then .ok { frame with pending := .expects flag }
    else do
      return { frame with given := ← frame.given.withFlag frame.level flag }
  | some flag, _ :: value =>
    if flag.takesValue then do
      return { frame with given := ← frame.given.withValue flag value }
    else .error .rejected

/-- Read an operand. -/
def operand (frame : Frame) (text : Text) : Except Stop Frame :=
  match frame.level.operands[frame.given.operands.length]? with
  | none => .error .rejected
  | some operand =>
    if operand.accepts text then
      .ok { frame with given := { frame.given with operands := frame.given.operands ++ [text] } }
    else .error .rejected

/-- Read an argument that is neither a command nor the two hyphens. -/
def argument (frame : Frame) (text : Text) : Except Stop Frame := do
  let frame ← frame.settle
  match text with
  | '-' :: '-' :: name => frame.longName name
  | '-' :: letter :: rest => frame.letters (letter :: rest)
  | text => frame.operand text

/-- Whether an argument has the form of an option. A lone hyphen has not. -/
def looksLikeFlag : Text → Bool
  | '-' :: _ :: _ => true
  | _ => false

/-- The command of the innermost level, once all arguments have been read. -/
def command (frame : Frame) : Except Stop (Option Command) :=
  let given := frame.given
  if given.operands.length < frame.level.needed then .error .rejected
  else
    match frame.level, given.operands with
    | .program, _ => .ok none
    | .parse, operands => .ok (some (.work (.parse (operands.head?.map Path.mk) given.format)))
    | .get, key :: operands => .ok (some (.work (.get key (operands.head?.map Path.mk))))
    | .scan, path :: _ =>
      .ok (some (.work (.scan ⟨path⟩ given.format given.extensions given.includeEmpty)))
    | .configShow, _ => .ok (some (.work .configShow))
    | .configTemplate, _ => .ok (some (.work .configTemplate))
    | .configPath, _ => .ok (some .configPath)
    | .completion, shell :: _ =>
      (Shell.ofName? shell).elim (.error .rejected) fun shell => .ok (some (.completion shell))
    | _, _ => .error .rejected

end Frame

/-- What the arguments say once they have all been read, given the levels from the innermost. -/
def Invocation.ofFrames (inner : Frame) (outer : List Frame) : Except Stop Invocation := do
  let frames ← (inner :: outer).mapM Frame.settle
  let command ← (frames.headD inner).command
  return {
    verbosity := (frames.findSome? (·.given.debug)).getD 0
    projectDir := frames.findSome? (·.given.projectDir)
    command }

/-- What help is asked for by the names that follow the help command of a level. -/
def helpTopic (level : Level) : List Text → Stop
  | [] => .help level
  | name :: rest =>
    match level.commands.lookup name with
    | some inner => helpTopic inner rest
    | none =>
      if name = "help".toList ∧ rest = [] ∧ level.commands ≠ [] then .help level else .rejected

/-- Read arguments at a level, where `onlyOperands` holds behind two hyphens. -/
def Invocation.readFrom (outer : List Frame) (frame : Frame) (onlyOperands : Bool) :
    List Text → Except Stop Invocation
  | [] => ofFrames frame outer
  | text :: rest =>
    if onlyOperands then
      match frame.settle >>= (·.operand text) with
      | .ok frame => readFrom outer frame true rest
      | .error stop => .error stop
    else
      match frame.pending with
      | .expects flag =>
        if Frame.looksLikeFlag text then .error .rejected
        else readFrom outer { frame with pending := .holds flag text } false rest
      | _ =>
        match frame.level.commands.lookup text with
        | some level => readFrom (frame :: outer) { level } false rest
        | none =>
          if text = "help".toList ∧ frame.level.commands ≠ [] then
            .error (helpTopic frame.level rest)
          else if text = ['-', '-'] then readFrom outer frame true rest
          else
            match frame.argument text with
            | .ok frame => readFrom outer frame false rest
            | .error stop => .error stop

/-- Read the arguments of the program. -/
def Invocation.read (arguments : List Text) : Except Stop Invocation :=
  readFrom [] { level := .program } false arguments

end DocTags
