/-
# Stages of a run

A task waits for the project directory and for the settings in it, and one about a comment then for
the text of the comment and for its delimiters. What cannot be had ends the run, and the exit code
says what it was: 74 if something cannot be read, 78 for the settings, and 65 for a text that is
not a comment.
-/

import DocTags.Command.Run
import DocTags.Proofs.Except

namespace DocTags

variable {world : World}

namespace World

/-- The text of the comment in a file or on the standard input. -/
def commentText (world : World) (file : Option Path) : Except IoFault Text :=
  match commentFile? file with
  | none => world.input
  | some path => world.files.readText path

theorem exitCode_of_projectDir {given : Option Path} {fault : Fault}
    (unknown : world.projectDir given = .error fault) : fault.exitCode = 74 := by
  cases given with
  | some dir => cases unknown
  | none =>
      obtain ⟨cause, -, rfl⟩ := mapError_eq_error_iff.mp unknown
      rfl

theorem exitCode_of_settings {projectDir : Path} {fault : Fault}
    (broken : world.settings projectDir = .error fault) : fault.exitCode = 78 := by
  obtain ⟨cause, -, rfl⟩ := mapError_eq_error_iff.mp broken
  rfl

/-- The fault of a comment that cannot be read. -/
def commentFault (file : Option Path) : IoFault → Fault :=
  match commentFile? file with
  | none => .stream "read stdin".toList
  | some path => .onPath "read doc comment".toList path

theorem exitCode_commentFault (file : Option Path) (cause : IoFault) :
    (commentFault file cause).exitCode = 74 := by
  rw [commentFault]
  cases commentFile? file <;> rfl

/-- Wherever a comment comes from, its text is read and parsed without the blanks around it. -/
theorem readTags_eq (world : World) (file : Option Path) :
    world.readTags file = (world.commentText file).mapError (commentFault file) >>= fun text =>
      (Comment.parseTrimmed text).mapError (·.fault) := by
  rw [readTags, commentText, commentFault]
  cases commentFile? file <;> rfl

/-- A comment stops a run if it cannot be read, or if the text that was read is none. -/
theorem exitCode_of_readTags {file : Option Path} {fault : Fault}
    (stopped : world.readTags file = .error fault) : fault.exitCode = 74 ∨ fault.exitCode = 65 := by
  rw [readTags_eq, bind_eq_error_iff] at stopped
  rcases stopped with unread | ⟨text, -, refused⟩
  · obtain ⟨cause, -, rfl⟩ := mapError_eq_error_iff.mp unread
    exact Or.inl (exitCode_commentFault file cause)
  · obtain ⟨malformed, -, rfl⟩ := mapError_eq_error_iff.mp refused
    exact Or.inr rfl

end World

namespace Invocation

variable {invocation : Invocation}

/-- A run that is done writes its printout. -/
theorem run_of_done {printout : Printout} (done : invocation.perform world = .ok printout) :
    (invocation.run world).exitCode = 0 ∧ (invocation.run world).output = printout.output := by
  simp [run, done]

/-- A run that is stopped writes nothing and ends with the code of its fault. -/
theorem run_of_stopped {fault : Fault} (stopped : invocation.perform world = .error fault) :
    (invocation.run world).exitCode = fault.exitCode ∧ (invocation.run world).output = [] := by
  simp [run, stopped]

/-- A command waits for the project directory. -/
theorem perform_of_command {command : Command} (asked : invocation.command = some command) :
    invocation.perform world =
      (world.projectDir invocation.projectDir).bind fun projectDir =>
        command.perform world projectDir := by
  rw [perform, asked]
  rfl

end Invocation

/-- Arguments that are understood are followed. -/
theorem World.run_of_read {arguments : List Text} {invocation : Invocation}
    (understood : Invocation.read arguments = .ok invocation) :
    world.run arguments = invocation.run world := by
  rw [World.run, understood]

end DocTags
