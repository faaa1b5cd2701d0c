/-
# Steps that write

A run writes to its two streams step by step, and what has been written is not taken back when a
fault stops the run. So a run that fails has left the standard output alone only if it takes the
steps that can fail first. The laws here put such runs together: steps without output may come
before steps that are careful, and steps that cannot fail are careful whatever they write.

What is written to the standard error are whole lines, so that the next text stands at the start of
a line.
-/

import DocTags.Fault
import DocTags.Proofs.Text.Pieces

namespace DocTags

/-- What has been written to the two streams. -/
structure Streams where
  output : Text := []
  errors : Text := []

/-- Steps that write, and that a fault can stop. -/
abbrev Writing :=
  ExceptT Fault (StateM Streams)

/-- A text consists of lines with their ends. -/
def Text.WholeLines (text : Text) : Prop :=
  text = [] ∨ ∃ front, text = front ++ ['\n']

theorem Text.WholeLines.append {front back : Text} (whole : WholeLines front)
    (backWhole : WholeLines back) : WholeLines (front ++ back) := by
  rcases backWhole with rfl | ⟨back, rfl⟩
  · rwa [List.append_nil]
  · exact Or.inr ⟨front ++ back, (List.append_assoc _ _ _).symm⟩

namespace Writing

variable {α β : Type}

/-- Write to the standard output. -/
def say (text : Text) : Writing Unit :=
  modify fun streams => { streams with output := streams.output ++ text }

/-- Write to the standard error. -/
def warn (text : Text) : Writing Unit :=
  modify fun streams => { streams with errors := streams.errors ++ text }

/-- Go on with a result, or stop with its fault. -/
def need (result : Except Fault α) : Writing α :=
  ExceptT.mk (pure result)

/-- What comes of some steps, and the streams behind them. -/
def after (writing : Writing α) (streams : Streams) : Except Fault α × Streams :=
  Id.run (StateT.run (ExceptT.run writing) streams)

@[simp]
theorem after_pure (value : α) (streams : Streams) :
    (pure value : Writing α).after streams = (.ok value, streams) := rfl

@[simp]
theorem after_say (text : Text) (streams : Streams) :
    (say text).after streams = (.ok (), { streams with output := streams.output ++ text }) := rfl

@[simp]
theorem after_warn (text : Text) (streams : Streams) :
    (warn text).after streams = (.ok (), { streams with errors := streams.errors ++ text }) := rfl

@[simp]
theorem after_need (result : Except Fault α) (streams : Streams) :
    (need result).after streams = (result, streams) := rfl

/-- What stops a step stops all that would have followed it. -/
theorem after_bind (writing : Writing α) (next : α → Writing β) (streams : Streams) :
    (writing >>= next).after streams =
      match writing.after streams with
      | (.ok value, later) => (next value).after later
      | (.error fault, later) => (.error fault, later) := by
  simp only [after, bind, ExceptT.bind, ExceptT.run, ExceptT.mk, ExceptT.bindCont, StateT.run,
    StateT.bind, Id.run]
  cases writing streams with
  | mk result later => cases result <;> rfl

/-! ## Careful steps -/

/-- No step breaks a line of the standard error. -/
def KeepsLines (writing : Writing α) : Prop :=
  ∀ streams, Text.WholeLines streams.errors → Text.WholeLines (writing.after streams).2.errors

/-- The steps write nothing to the standard output. -/
structure Silent (writing : Writing α) : Prop where
  output : ∀ streams, (writing.after streams).2.output = streams.output
  lines : writing.KeepsLines

/-- The steps cannot be stopped. -/
structure Certain (writing : Writing α) : Prop where
  done : ∀ streams, ∃ value later, writing.after streams = (.ok value, later)
  lines : writing.KeepsLines

/-- When the steps are stopped, they have written nothing to the standard output. -/
structure Careful (writing : Writing α) : Prop where
  output : ∀ {streams fault later}, writing.after streams = (.error fault, later) →
    later.output = streams.output
  lines : writing.KeepsLines

theorem KeepsLines.bind {writing : Writing α} {next : α → Writing β} (first : writing.KeepsLines)
    (rest : ∀ value, (next value).KeepsLines) : (writing >>= next).KeepsLines := by
  intro streams whole
  have between := first streams whole
  rw [after_bind]
  cases reached : writing.after streams with
  | mk result later =>
      rw [reached] at between
      cases result with
      | error fault => exact between
      | ok value => exact rest value later between

theorem silent_pure (value : α) : (pure value : Writing α).Silent :=
  ⟨fun _ => rfl, fun _ whole => whole⟩

theorem silent_need (result : Except Fault α) : (need result).Silent :=
  ⟨fun _ => rfl, fun _ whole => whole⟩

theorem silent_warn {text : Text} (whole : Text.WholeLines text) : (warn text).Silent :=
  ⟨fun _ => rfl, fun _ before => before.append whole⟩

theorem certain_say (text : Text) : (say text).Certain :=
  ⟨fun _ => ⟨(), _, rfl⟩, fun _ whole => whole⟩

theorem certain_need (value : α) : (need (.ok value)).Certain :=
  ⟨fun _ => ⟨value, _, rfl⟩, fun _ whole => whole⟩

theorem Certain.bind {writing : Writing α} {next : α → Writing β} (first : writing.Certain)
    (rest : ∀ value, (next value).Certain) : (writing >>= next).Certain := by
  refine ⟨fun streams => ?_, first.lines.bind fun value => (rest value).lines⟩
  obtain ⟨value, later, reached⟩ := first.done streams
  rw [after_bind, reached]
  exact (rest value).done later

/-- Steps that cannot be stopped are careful. -/
theorem Certain.careful {writing : Writing α} (certain : writing.Certain) : writing.Careful := by
  refine ⟨fun {streams fault later} stopped => ?_, certain.lines⟩
  obtain ⟨value, reached, done⟩ := certain.done streams
  rw [done] at stopped
  cases stopped

/-- Steps without output may come before careful ones. -/
theorem Silent.bind {writing : Writing α} {next : α → Writing β} (first : writing.Silent)
    (rest : ∀ value, (next value).Careful) : (writing >>= next).Careful := by
  refine ⟨fun {streams fault later} stopped => ?_, first.lines.bind fun value => (rest value).lines⟩
  have unchanged := first.output streams
  rw [after_bind] at stopped
  cases reached : writing.after streams with
  | mk result between =>
      rw [reached] at stopped unchanged
      cases result with
      | error cause =>
          cases stopped
          exact unchanged
      | ok value => exact ((rest value).output stopped).trans unchanged

end Writing

end DocTags
