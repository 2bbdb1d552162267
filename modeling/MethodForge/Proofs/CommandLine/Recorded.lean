/-
Module: MethodForge.Proofs.CommandLine.Recorded
Purpose: A run under observation. Whatever the machine is that the program runs on, what the program
  prints, the directories that it creates and the commands that it starts can be written down as they
  are asked for. What is written down of a generation are the effects of its plan, from the current
  directory: a first part of them, and all of them when it succeeds.
Main exports: Effect, Surroundings.recorded, Surroundings.Succeeds, Surroundings.follows_recorded,
  plannedEffects, Surroundings.generation_recorded
-/
import MethodForge.CommandLine.Run
import MethodForge.Proofs.Pipeline

namespace MethodForge.CommandLine

open Host (NativePath)
open Log (Event Filter)
open Pipeline (CutAtFirstFailure Follows Performed plannedSteps)
open Text (Bytes)

/-! ### Recording -/

/-- What the program asks of the machine. Reading and logging do not count. -/
inductive Effect where
  | print (bytes : Bytes)
  | createDirectory (place : NativePath)
  | start (command : Command) (directory : NativePath)
deriving Repr, DecidableEq

/-- The command that is started, if one is. -/
def Effect.command? : Effect → Option Command
  | .start command _ => some command
  | _ => none

/-- An effect of a generation as one of the program. -/
def Effect.ofGeneration : Pipeline.Effect → Effect
  | .createDirectory place => .createDirectory place
  | .run _ command directory => .start command directory

variable {σ : Type}

namespace Surroundings

/-- The surroundings with a record of every effect. -/
def recorded (surroundings : Surroundings (StateM σ)) : Surroundings (Recording σ Effect) where
  environment := surroundings.environment
  look := fun path => Recording.unseen (surroundings.look path)
  input := Recording.unseen surroundings.input
  print := fun bytes => Recording.seen (surroundings.print bytes) fun _ => .print bytes
  log := fun event => Recording.unseen (surroundings.log event)
  createDirectory := fun place =>
    Recording.seen (surroundings.createDirectory place) fun _ => .createDirectory place
  start := fun command directory =>
    Recording.seen (surroundings.start command directory) fun _ => .start command directory

/-- Whether every directory can be created and every command ends without an error. -/
structure Succeeds (surroundings : Surroundings (StateM σ)) : Prop where
  creates : ∀ place state, (surroundings.createDirectory place state).1 = .ok ()
  starts : ∀ command directory state,
    (surroundings.start command directory state).1 = .ok (.exited 0)

variable (surroundings : Surroundings (StateM σ)) (filter : Filter) (state : σ)
  (record : List Effect)

theorem note_recorded (event : Event) :
    surroundings.recorded.note filter event (state, record) =
      ((), (surroundings.note filter event state).2, record) := by
  unfold note
  split
  · rfl
  · rfl

/-- Notes about one thing after the other leave no effect. -/
theorem forIn_note_recorded {γ : Type} (event : γ → Event) (subjects : List γ) :
    ∃ after,
      (forIn subjects PUnit.unit fun subject _ => do
          surroundings.recorded.note filter (event subject)
          pure (ForInStep.yield PUnit.unit) : Recording σ Effect PUnit)
        (state, record) = (PUnit.unit, after, record) := by
  induction subjects generalizing state with
  | nil => exact ⟨state, rfl⟩
  | cons subject rest ih =>
      obtain ⟨after, later⟩ := ih (surroundings.note filter (event subject) state).2
      refine ⟨after, ?_⟩
      rw [List.forIn_cons, bind_apply, bind_apply, note_recorded]
      exact later

theorem start_recorded (command : Command) (directory : NativePath) :
    surroundings.recorded.start command directory (state, record) =
      ((surroundings.start command directory state).1,
        (surroundings.start command directory state).2, record ++ [.start command directory]) :=
  rfl

/-- A command is started and nothing else is asked for, whatever comes of it. -/
theorem run_recorded (name : String) (command : Command) (directory : NativePath) :
    (surroundings.recorded.machine filter).run name command directory (state, record) =
      (((surroundings.machine filter).run name command directory state).1,
        ((surroundings.machine filter).run name command directory state).2,
        record ++ [.start command directory]) := by
  simp only [machine, Machine.runProgram, bind_apply, note_recorded, start_recorded]
  cases (surroundings.start command directory _).1 with
  | error reason => rfl
  | ok status =>
      cases status with
      | signalled signal => rfl
      | exited code => cases code <;> rfl

/-- When every command ends without an error, every run does. -/
theorem Succeeds.runs {surroundings : Surroundings (StateM σ)} (succeeds : surroundings.Succeeds)
    (name : String) (command : Command) (directory : NativePath) :
    ((surroundings.machine filter).run name command directory state).1 = .ok () := by
  change (Machine.runProgram (surroundings.note filter) surroundings.start name command directory
    state).1 = _
  rw [Machine.runProgram, bind_apply, bind_apply, succeeds.starts]
  rfl

/-- What is written down of a generation: its effects so far, none of which failed if nothing fails. -/
structure Mirrors (surroundings : Surroundings (StateM σ)) (state : σ) (performed : List Performed)
    (recording : σ × List Effect) : Prop where
  written : recording = (state, (performed.map (·.effect)).map .ofGeneration)
  fine : surroundings.Succeeds → ∀ one ∈ performed, one.failure? = none

/-- One more effect is written down, and it does not fail if nothing fails. -/
theorem Mirrors.concat {surroundings : Surroundings (StateM σ)} {state : σ}
    {performed : List Performed} {recording : σ × List Effect}
    (mirrors : surroundings.Mirrors state performed recording) (after : σ) {one : Performed}
    {effect : Effect} (same : .ofGeneration one.effect = effect)
    (fine : surroundings.Succeeds → one.failure? = none) :
    surroundings.Mirrors after (performed ++ [one]) (after, recording.2 ++ [effect]) := by
  constructor
  · rw [mirrors.written, List.map_append, List.map_append, ← same]
    rfl
  · intro succeeds other member
    rcases List.mem_append.1 member with earlier | last
    · exact mirrors.fine succeeds other earlier
    · rw [List.mem_singleton.1 last]
      exact fine succeeds

/-- A generation goes on in the same way when it is recorded. -/
theorem follows_recorded :
    Follows (surroundings.machine filter) (surroundings.recorded.machine filter)
      surroundings.Mirrors where
  note := by
    intro event state performed recording mirrors
    cases mirrors.written
    have noted := surroundings.note_recorded filter state
      ((performed.map (·.effect)).map .ofGeneration) event
    exact ⟨congrArg Prod.snd noted, mirrors.fine⟩
  createDirectory := by
    intro place state performed recording mirrors
    cases mirrors.written
    refine ⟨rfl, mirrors.concat _ (by rw [Performed.effect_created]; rfl) fun succeeds => ?_⟩
    have created : ((surroundings.machine filter).createDirectory place state).1 = .ok () :=
      succeeds.creates place state
    rw [created]
    rfl
  run := by
    intro name command directory state performed recording mirrors
    cases mirrors.written
    rw [run_recorded]
    refine ⟨rfl, mirrors.concat _ (by rw [Performed.effect_ran]; rfl) fun succeeds => ?_⟩
    rw [succeeds.runs]
    rfl

end Surroundings

/-! ### A generation -/

/-- What a generation asks for when nothing fails. -/
def plannedEffects (root : NativePath) (toolchain : Toolchain) (protos : List String)
    (invocations : List Invocation) : List Effect :=
  ((plannedSteps root toolchain protos invocations).map (·.effect)).map .ofGeneration

/-- A generation asks for a first part of its plan, and for all of it when it succeeds. -/
theorem Surroundings.generation_recorded (surroundings : Surroundings (StateM σ)) (filter : Filter)
    (root : NativePath) (layout : Parameters) (toolchain : Toolchain) {protos : List String}
    (given : protos ≠ []) (state : σ) :
    let planned := plannedEffects root toolchain protos (standardInvocations layout)
    ∃ result after effects,
      (surroundings.recorded.machine filter).generate root layout toolchain protos (state, []) =
          (result, after, effects) ∧
        effects <+: planned ∧ (∀ pending, result = .ok pending → effects = planned) ∧
        (surroundings.Succeeds → ∃ pending, result = .ok pending) := by
  intro planned
  have nonempty : protos.isEmpty = false := by simpa using given
  have start : surroundings.Mirrors state [] (state, []) :=
    ⟨rfl, fun _ one member => absurd member List.not_mem_nil⟩
  obtain ⟨result, after, later, performed, -, recording, mirrors, cut⟩ :=
    (surroundings.follows_recorded filter).runAll root toolchain protos []
      (standardInvocations layout) start
  rw [mirrors.written] at recording
  refine ⟨result, after, (performed.map (·.effect)).map .ofGeneration, ?_, ?_, ?_, ?_⟩
  · rw [Machine.generate, nonempty, if_neg Bool.false_ne_true]
    exact recording
  · exact cut.effects_isPrefix.map _
  · intro pending succeeded
    exact congrArg _ (cut.effects_eq succeeded)
  · exact fun succeeds => ⟨_, cut.eq_ok (mirrors.fine succeeds)⟩

end MethodForge.CommandLine
