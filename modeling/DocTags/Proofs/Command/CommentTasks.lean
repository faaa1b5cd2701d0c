/-
# Tasks about one comment

To show the tree of a comment and to look up one of its values take the same way to the tags of the
comment: over the project directory, the settings, the text and its delimiters. On this way the
first thing that is missing decides the exit code, whatever else is missing behind it. With the tags
at hand, showing the tree always succeeds, and a lookup succeeds if a tag has exactly the key.
-/

import DocTags.Files.Memory
import DocTags.Proofs.Command.Stages
import DocTags.Proofs.Comment.LastValue

namespace DocTags

variable {world : World} {given file : Option Path}

namespace World

/-- The text of a comment without the blanks around it starts and ends like one. -/
def IsComment (text : Text) : Prop :=
  Comment.opening <+: Text.trim Text.isBlank text ∧ Comment.closing <:+ Text.trim Text.isBlank text

/-- The tags of a comment are out of reach, with the exit code of the first stage that fails. -/
inductive Stops (world : World) (given file : Option Path) : Nat → Prop where
  | noProject {fault : Fault} (unknown : world.projectDir given = .error fault) :
    Stops world given file 74
  | noSettings {projectDir : Path} {fault : Fault} (known : world.projectDir given = .ok projectDir)
    (broken : world.settings projectDir = .error fault) : Stops world given file 78
  | noText {projectDir : Path} {settings : Settings} {cause : IoFault}
    (known : world.projectDir given = .ok projectDir)
    (loaded : world.settings projectDir = .ok settings)
    (unreadable : world.commentText file = .error cause) : Stops world given file 74
  | noComment {projectDir : Path} {settings : Settings} {text : Text}
    (known : world.projectDir given = .ok projectDir)
    (loaded : world.settings projectDir = .ok settings)
    (readable : world.commentText file = .ok text) (other : ¬ IsComment text) :
    Stops world given file 65

/-- The settings are loaded, and the tags are those of the body of the comment. -/
structure Reaches (world : World) (given file : Option Path) (settings : Settings)
    (tags : List Tag) : Prop where
  settings : ∃ projectDir, world.projectDir given = .ok projectDir ∧
    world.settings projectDir = .ok settings
  tags : ∃ text inner, world.commentText file = .ok text ∧
    Comment.Holds (Text.trim Text.isBlank text) inner ∧ tags = Tag.ofBody inner

end World

/-- How a task about one comment ends: its exit code and what it writes. -/
inductive Task.Ends (world : World) (given : Option Path) : Task → Nat → Text → Prop where
  | parseStops {file : Option Path} {format : Option Format} {code : Nat}
    (stops : world.Stops given file code) : Ends world given (.parse file format) code []
  | parsed {file : Option Path} {format : Option Format} {settings : Settings} {tags : List Tag}
    (reaches : world.Reaches given file settings tags) :
    Ends world given (.parse file format) 0
      ((Comment.treeOf tags).render ((file.map Path.text).getD "<stdin>".toList)
        (format.getD settings.format) ++ ['\n'])
  | getStops {key : Text} {file : Option Path} {code : Nat} (stops : world.Stops given file code) :
    Ends world given (.get key file) code []
  | absent {key : Text} {file : Option Path} {settings : Settings} {tags : List Tag}
    (reaches : world.Reaches given file settings tags) (others : ∀ tag ∈ tags, tag.key ≠ key) :
    Ends world given (.get key file) 65 []
  | found {key value : Text} {file : Option Path} {settings : Settings} {before after : List Tag}
    (reaches : world.Reaches given file settings (before ++ ⟨key, value⟩ :: after))
    (others : ∀ tag ∈ after, tag.key ≠ key) : Ends world given (.get key file) 0 (value ++ ['\n'])

namespace World

/-! ## The way to the tags -/

/-- Go on with the settings and the tree of a comment. -/
def withComment (world : World) (given file : Option Path)
    (next : Settings → Tree → Except Fault Printout) : Except Fault Printout := do
  let projectDir ← world.projectDir given
  let settings ← world.settings projectDir
  let tags ← world.readTags file
  next settings tags

variable {next : Settings → Tree → Except Fault Printout}

/-- What stops on the way to the tags is the fault of the task. -/
theorem Stops.withComment {code : Nat} (stops : world.Stops given file code) :
    ∃ fault, world.withComment given file next = .error fault ∧ fault.exitCode = code := by
  cases stops with
  | @noProject fault unknown =>
      refine ⟨fault, ?_, exitCode_of_projectDir unknown⟩
      simp only [World.withComment, unknown, error_bind]
  | @noSettings _ fault known broken =>
      refine ⟨fault, ?_, exitCode_of_settings broken⟩
      simp only [World.withComment, known, broken, ok_bind, error_bind]
  | @noText _ _ cause known loaded unreadable =>
      refine ⟨commentFault file cause, ?_, exitCode_commentFault file cause⟩
      simp only [World.withComment, known, loaded, readTags_eq, unreadable, mapError_error, ok_bind,
        error_bind]
  | @noComment _ _ text known loaded readable other =>
      obtain ⟨malformed, lacking⟩ := Comment.exists_malformed other
      have refused : Comment.parseTrimmed text = .error malformed := by
        rw [Comment.parseTrimmed, Comment.parse, lacking, error_bind]
      refine ⟨malformed.fault, ?_, rfl⟩
      simp only [World.withComment, known, loaded, readTags_eq, readable, refused, mapError_ok,
        mapError_error, ok_bind, error_bind]

/-- With the tags at hand the task goes on. -/
theorem Reaches.withComment {settings : Settings} {tags : List Tag}
    (reaches : world.Reaches given file settings tags) :
    world.withComment given file next = next settings (Comment.treeOf tags) := by
  obtain ⟨⟨projectDir, known, loaded⟩, ⟨text, inner, readable, holds, rfl⟩⟩ := reaches
  have parsed : Comment.parseTrimmed text = .ok (Comment.treeOf (Tag.ofBody inner)) :=
    Comment.parse_eq_ok_iff.mpr ⟨inner, Comment.body_of_holds holds, rfl⟩
  simp only [World.withComment, known, loaded, readTags_eq, readable, parsed, mapError_ok, ok_bind]

end World

/-! ## Ends and runs -/

namespace Invocation

variable {invocation : Invocation} {format : Option Format} {key : Text}

theorem perform_of_parse (asked : invocation.command = some (.work (.parse file format))) :
    invocation.perform world =
      world.withComment invocation.projectDir file fun settings tags => .ok {
        output := tags.render ((file.map Path.text).getD "<stdin>".toList)
          (format.getD settings.format) ++ ['\n'] } := by
  rw [perform_of_command asked]
  rfl

theorem perform_of_get (asked : invocation.command = some (.work (.get key file))) :
    invocation.perform world =
      world.withComment invocation.projectDir file fun _ tags =>
        match tags.lookup key with
        | some value => .ok { output := value ++ ['\n'] }
        | none => .error (.noValue key) := by
  rw [perform_of_command asked]
  rfl

/-- A run ends as its task does. -/
theorem run_of_ends {task : Task} (asked : invocation.command = some (.work task)) {code : Nat}
    {output : Text} (ends : task.Ends world invocation.projectDir code output) :
    (invocation.run world).exitCode = code ∧ (invocation.run world).output = output := by
  cases ends with
  | parseStops stops =>
      obtain ⟨fault, stopped, rfl⟩ := stops.withComment
      exact run_of_stopped ((perform_of_parse asked).trans stopped)
  | parsed reaches => exact run_of_done ((perform_of_parse asked).trans reaches.withComment)
  | getStops stops =>
      obtain ⟨fault, stopped, rfl⟩ := stops.withComment
      exact run_of_stopped ((perform_of_get asked).trans stopped)
  | absent reaches others =>
      have done := (perform_of_get asked).trans reaches.withComment
      rw [Comment.lookup_treeOf, Tag.lastValue?_eq_none_iff.mpr others] at done
      exact run_of_stopped done
  | found reaches others =>
      have done := (perform_of_get asked).trans reaches.withComment
      rw [Comment.lookup_treeOf, Tag.lastValue?_eq_some_iff.mpr ⟨_, _, rfl, others⟩] at done
      exact run_of_done done

end Invocation

end DocTags
