/-
# The program

The outer layer: it takes the arguments, looks at the files that the run asks for, runs it against
what was seen, and writes what comes out.
-/

import DocTags.Command.Account
import DocTags.Command.Sources
import DocTags.Files.Snapshot

namespace DocTags.Program

/-- A path or another text in the form in which the system takes it. -/
def outward (text : Text) : String :=
  String.ofList text

/-- The number by which the system names a fault, which may come with either sign. -/
def faultCode : IO.Error → Nat
  | .alreadyExists _ code _ | .noFileOrDirectory _ code _ | .invalidArgument _ code _
  | .permissionDenied _ code _ | .resourceExhausted _ code _ | .inappropriateType _ code _
  | .noSuchThing _ code _ | .interrupted _ code _ | .otherError code _ | .resourceBusy code _
  | .resourceVanished code _ | .unsupportedOperation code _ | .hardwareFault code _
  | .unsatisfiedConstraints code _ | .illegalOperation code _ | .protocolError code _
  | .timeExpired code _ => code.toInt32.toInt.natAbs
  | .unexpectedEof | .userError _ => 0

/-- An action whose failure is kept as a reason. -/
def attempt {α : Type} (action : IO α) : BaseIO (Except IoFault α) := do
  match ← action.toBaseIO with
  | .ok value => return .ok value
  | .error fault => return .error (.ofCode (faultCode fault))

/-- The text of a file. -/
def readText (path : Path) : BaseIO (Except IoFault Text) := do
  let bytes ← attempt (IO.FS.readBinFile (outward path.text))
  return bytes >>= decodeText

/-- What stands at a path. -/
def look (path : Path) : BaseIO (Option Sight) := do
  let kind ← attempt do
    let place ← IO.FS.realPath (outward path.text)
    return (← place.metadata).type
  match kind with
  | .ok .file => return some .file
  | .ok .dir => return some .dir
  | .ok _ => return some .other
  | .error _ => return none

/-- The files below a directory. Links are passed over. -/
partial def listBelow (path : Path) : IO Listing := do
  let place ← IO.FS.realPath (outward path.text)
  let mut listing : Listing := ⟨[], []⟩
  for entry in ← place.readDir do
    let inner := path.join ⟨entry.fileName.toList⟩
    let below ← attempt do
      match (← entry.path.symlinkMetadata).type with
      | .file => return ⟨[inner], []⟩
      | .dir => listBelow inner
      | _ => return ⟨[], []⟩
    match below with
    | .ok below =>
      listing := ⟨below.files ++ listing.files, below.unreadable ++ listing.unreadable⟩
    | .error _ => listing := { listing with unreadable := inner :: listing.unreadable }
  return listing

/-- Look at a path, and list it if that is wanted and it is a directory. -/
def sight (listed : Bool) (path : Path) : BaseIO Snapshot := do
  let kind ← look path
  let sights := kind.toList.map fun sight => (path, sight)
  if listed ∧ kind = some .dir then
    return { sights, listings := [(path, ← attempt (listBelow path))] }
  else return { sights }

/-- Look at the texts of files. -/
def texts (paths : List Path) : BaseIO Snapshot := do
  return { texts := ← paths.mapM fun path => do return (path, ← readText path) }

/-- The variables of the environment that are text. -/
def environment : BaseIO Environment := do
  match ← attempt (IO.FS.readBinFile "/proc/self/environ") with
  | .error _ => return []
  | .ok bytes =>
    let pieces := bytes.toList.splitOn 0
    return pieces.filterMap fun piece => do
      let line ← Text.ofUtf8? ⟨piece.toArray⟩
      let (name, value) ← Text.cutAt? ['='] line
      return (name, value)

/-- The home directory that the system keeps for the account. -/
def accountHome : BaseIO (Option Path) := do
  let status ← readText ⟨"/proc/self/status".toList⟩
  let accounts ← readText ⟨"/etc/passwd".toList⟩
  match status, accounts with
  | .ok status, .ok accounts => return (Account.number? status).bind (Account.home? accounts)
  | _, _ => return none

/-- All bytes that are left in a stream. -/
partial def readAll (stream : IO.FS.Stream) (read : ByteArray) : IO ByteArray := do
  let more ← stream.read 65536
  if more.isEmpty then return read else readAll stream (read ++ more)

/-- The world as far as an invocation sees it. -/
def worldOf (invocation : Invocation) : BaseIO World := do
  let workingDir ← attempt do return (⟨(toString (← IO.currentDir)).toList⟩ : Path)
  let unread : World := {
    files := Snapshot.fileSystem {}
    environment := ← environment
    accountHome := ← accountHome
    workingDir
    input := .ok [] }
  match invocation.task? with
  | none => return unread
  | some task =>
    let settingsFiles := invocation.settingsFiles unread
    let settingsSights ← settingsFiles.mapM (sight false)
    let subjectSight ← task.subject?.toList.mapM (sight task.listsSubject)
    let seen := (settingsSights ++ subjectSight).foldl (· ++ ·) (← texts settingsFiles)
    let sources := invocation.sources { unread with files := seen.fileSystem }
    let input ←
      if task.readsInput then
        let bytes ← attempt do readAll (← IO.getStdin) ByteArray.empty
        pure (bytes >>= decodeText)
      else pure (.ok [])
    return { unread with files := (seen ++ (← texts sources)).fileSystem, input }

/-- Run the program with its arguments. -/
def run (arguments : List Text) : BaseIO Outcome := do
  match Invocation.read arguments with
  | .ok invocation => return invocation.run (← worldOf invocation)
  | .error stop => return stop.outcome

end DocTags.Program

/-- Run the program, write what it says, and end with its exit code. -/
def main (arguments : List String) : IO UInt32 := do
  let outcome ← DocTags.Program.run (arguments.map String.toList)
  (← IO.getStderr).putStr (DocTags.Program.outward outcome.errors)
  let output ← IO.getStdout
  output.putStr (DocTags.Program.outward outcome.output)
  output.flush
  return outcome.exitCode.toUInt32
