/-
Module: MethodForge.Proofs.Pipeline
Purpose: A generation is its plan, cut at the first failure. The plan is to create the output directory
  of each run, below the root, and then to make the run at the root. On any machine, whatever fails on
  it and when, the effects of a generation are those of the plan up to the first one that fails, whose
  error is the one returned; when none fails, the directories for `go generate` are returned, each at
  its first place.
Main exports: Recording, Effect, Performed, recorded, plannedSteps, CutAtFirstFailure, Follows,
  Follows.runAll, pendingDirectories, generate_cut_at_first_failure
-/
import Mathlib.Data.List.Induction
import MethodForge.Pipeline

namespace MethodForge

open Host (NativePath)

/-! ### Recording -/

/-- A run on a machine with states, beside which something is written down. -/
abbrev Recording (σ ε : Type) : Type → Type := StateM (σ × List ε)

namespace Recording

variable {σ ε α : Type}

/-- An action of which nothing is written down. -/
def unseen (action : StateM σ α) : Recording σ ε α := fun (state, record) =>
  let (value, after) := action state
  (value, after, record)

/-- An action of which something is written down that its value may say. -/
def seen (action : StateM σ α) (entry : α → ε) : Recording σ ε α := fun (state, record) =>
  let (value, after) := action state
  (value, after, record ++ [entry value])

/-- The value of a run and what was written down of it. -/
def observe (action : Recording σ ε α) (state : σ) : α × List ε :=
  ((action (state, [])).1, (action (state, [])).2.2)

end Recording

theorem bind_apply {τ α β : Type} (action : StateM τ α) (next : α → StateM τ β) (state : τ) :
    (action >>= next) state = next (action state).1 (action state).2 := rfl

namespace Pipeline

variable {σ τ : Type}

/-! ### The record of a generation -/

/-- What a generation asks of its machine. Noting events does not count. -/
inductive Effect where
  /-- Creates the directory at a place. -/
  | createDirectory (place : NativePath)
  /-- Makes the run of the given name by a command, from a directory. -/
  | run (name : String) (command : Command) (directory : NativePath)
deriving Repr, DecidableEq

/-- How an effect fails. -/
inductive Failure where
  | notCreated (reason : String)
  | notRun (error : PipelineError)
deriving Repr, DecidableEq

/-- An effect that was asked for, and how it failed if it did. -/
structure Performed where
  effect : Effect
  failure? : Option Failure
deriving Repr, DecidableEq

/-- An effect that did not fail. -/
def Effect.succeeded (effect : Effect) : Performed :=
  ⟨effect, none⟩

/-- A directory that a machine was asked to create, with its answer. -/
def Performed.created (place : NativePath) : Except String Unit → Performed
  | .ok () => (Effect.createDirectory place).succeeded
  | .error reason => ⟨.createDirectory place, some (.notCreated reason)⟩

/-- A run that a machine was asked to make, with its answer. -/
def Performed.ran (name : String) (command : Command) (directory : NativePath) :
    Except PipelineError Unit → Performed
  | .ok () => (Effect.run name command directory).succeeded
  | .error error => ⟨.run name command directory, some (.notRun error)⟩

@[simp] theorem Performed.effect_created (place : NativePath) (answer : Except String Unit) :
    (created place answer).effect = .createDirectory place := by
  cases answer <;> rfl

@[simp] theorem Performed.effect_ran (name : String) (command : Command) (directory : NativePath)
    (answer : Except PipelineError Unit) :
    (ran name command directory answer).effect = .run name command directory := by
  cases answer <;> rfl

/-- The machine with a record of its effects beside its state. -/
def recorded (machine : Machine (StateM σ)) : Machine (Recording σ Performed) where
  createDirectory := fun place =>
    Recording.seen (machine.createDirectory place) (Performed.created place)
  run := fun name command directory =>
    Recording.seen (machine.run name command directory) (Performed.ran name command directory)
  note := fun event => Recording.unseen (machine.note event)

/-! ### The plan -/

/-- An effect with the run that it is for. -/
structure Step where
  invocation : Invocation
  effect : Effect
deriving Repr, DecidableEq

/-- The error of a generation that a failure ends. -/
def Step.error (step : Step) : Failure → PipelineError
  | .notCreated reason => .createDirectory step.invocation.outDirectory reason
  | .notRun error => error

/-- What a run asks for when nothing fails: its output directory below the root, and then its command
at the root. -/
def stepsOf (root : NativePath) (toolchain : Toolchain) (protos : List String)
    (invocation : Invocation) : List Step :=
  [ ⟨invocation, .createDirectory (root.join (.ofText invocation.outDirectory))⟩,
    ⟨invocation, .run invocation.name (invocation.command toolchain protos) root⟩ ]

/-- What runs ask for, one after the other, when nothing fails. -/
def plannedSteps (root : NativePath) (toolchain : Toolchain) (protos : List String)
    (invocations : List Invocation) : List Step :=
  invocations.flatMap (stepsOf root toolchain protos)

/-- The directories in which `go generate` has to be run, each at its first place. -/
def pendingDirectories (invocations : List Invocation) : List String :=
  ((invocations.filter (·.goGenerate)).map (·.outDirectory)).eraseDups

/-- Whether a record is that of a plan up to the first effect that failed, and the result that of the
last effect or, when none failed, the given directories. -/
inductive CutAtFirstFailure (plan : List Step) (directories : List String) :
    List Performed → Except PipelineError (List String) → Prop where
  | whole : CutAtFirstFailure plan directories (plan.map (·.effect.succeeded)) (.ok directories)
  | cut (done : List Step) {failing : Step} {rest : List Step} (failure : Failure)
      (parts : plan = done ++ failing :: rest) :
      CutAtFirstFailure plan directories
        (done.map (·.effect.succeeded) ++ [⟨failing.effect, some failure⟩])
        (.error (failing.error failure))

namespace CutAtFirstFailure

variable {plan : List Step} {directories : List String} {record : List Performed}
  {result : Except PipelineError (List String)}

/-- Effects that succeed come before what follows them. -/
theorem append (later : CutAtFirstFailure plan directories record result) (first : List Step) :
    CutAtFirstFailure (first ++ plan) directories (first.map (·.effect.succeeded) ++ record)
      result := by
  cases later with
  | whole =>
      rw [← List.map_append]
      exact .whole
  | cut done failure parts =>
      rw [← List.append_assoc, ← List.map_append]
      exact .cut (first ++ done) failure (by rw [parts, List.append_assoc])

/-- A generation without a failure returns the directories. -/
theorem eq_ok (follows : CutAtFirstFailure plan directories record result)
    (fine : ∀ performed ∈ record, performed.failure? = none) : result = .ok directories := by
  cases follows with
  | whole => rfl
  | cut done failure parts => cases fine _ (List.mem_append_right _ List.mem_cons_self)

/-- A generation succeeds exactly when the whole plan was performed without a failure. -/
theorem ok_iff (follows : CutAtFirstFailure plan directories record result) :
    (∃ pending, result = .ok pending) ↔
      record.length = plan.length ∧ ∀ performed ∈ record, performed.failure? = none := by
  constructor
  · rintro ⟨pending, succeeded⟩
    cases follows with
    | whole =>
        refine ⟨List.length_map .., fun performed member => ?_⟩
        obtain ⟨step, -, rfl⟩ := List.mem_map.1 member
        rfl
    | cut done failure parts => cases succeeded
  · rintro ⟨-, fine⟩
    exact ⟨directories, follows.eq_ok fine⟩

/-- What was asked for is a first part of the plan. -/
theorem effects_isPrefix (follows : CutAtFirstFailure plan directories record result) :
    record.map (·.effect) <+: plan.map (·.effect) := by
  cases follows with
  | whole =>
      rw [List.map_map]
      exact List.prefix_rfl
  | cut done failure parts =>
      rw [parts, List.map_append, List.map_append, List.map_map]
      exact (List.prefix_append_right_inj _).2 (List.prefix_append [_] _)

/-- When a generation succeeds, all of the plan was asked for. -/
theorem effects_eq (follows : CutAtFirstFailure plan directories record result)
    {pending : List String} (succeeded : result = .ok pending) :
    record.map (·.effect) = plan.map (·.effect) := by
  cases follows with
  | whole => exact List.map_map
  | cut done failure parts => cases succeeded

end CutAtFirstFailure

/-! ### Runs -/

/-- What is said of a machine that follows another one: whatever both are asked, they give the same
answer, and a relation between their states and the record of the effects so far is kept. -/
structure Follows (machine : Machine (StateM σ)) (follower : Machine (StateM τ))
    (related : σ → List Performed → τ → Prop) : Prop where
  note : ∀ event {state record other}, related state record other →
    related (machine.note event state).2 record (follower.note event other).2
  createDirectory : ∀ place {state record other}, related state record other →
    (follower.createDirectory place other).1 = (machine.createDirectory place state).1 ∧
      related (machine.createDirectory place state).2
        (record ++ [.created place (machine.createDirectory place state).1])
        (follower.createDirectory place other).2
  run : ∀ name command directory {state record other}, related state record other →
    (follower.run name command directory other).1 =
        (machine.run name command directory state).1 ∧
      related (machine.run name command directory state).2
        (record ++ [.ran name command directory (machine.run name command directory state).1])
        (follower.run name command directory other).2

/-- A machine that follows another one does so through all runs, and what both are asked is the plan,
cut at the first failure. -/
theorem Follows.runAll {machine : Machine (StateM σ)} {follower : Machine (StateM τ)}
    {related : σ → List Performed → τ → Prop} (follows : Follows machine follower related)
    (root : NativePath) (toolchain : Toolchain) (protos pending : List String)
    (invocations : List Invocation) {state : σ} {before : List Performed} {other : τ}
    (start : related state before other) :
    ∃ result after later record,
      machine.runAll root toolchain protos pending invocations state = (result, after) ∧
        follower.runAll root toolchain protos pending invocations other = (result, later) ∧
        related after (before ++ record) later ∧
        CutAtFirstFailure (plannedSteps root toolchain protos invocations)
          (invocations.foldl Machine.addPending pending) record result := by
  -- The induction is on the runs: the first one fails at its directory, fails at its command, or
  -- hands the relation on to the runs behind it.
  induction invocations generalizing pending state before other with
  | nil =>
      refine ⟨.ok pending, state, other, [], rfl, rfl, ?_, .whole⟩
      rw [List.append_nil]
      exact start
  | cons invocation rest ih =>
      let place := invocation.outPlace root
      let command := invocation.command toolchain protos
      let create : Step := ⟨invocation, .createDirectory place⟩
      let run : Step := ⟨invocation, .run invocation.name command root⟩
      have planned : plannedSteps root toolchain protos (invocation :: rest) =
          [create, run] ++ plannedSteps root toolchain protos rest := rfl
      have noted := follows.note (.note .info .pipeline s!"Generating {invocation.name}...") start
      obtain ⟨sameAnswer, created⟩ := follows.createDirectory place noted
      rw [planned, Machine.runAll, Machine.runAll, bind_apply, bind_apply, bind_apply, bind_apply,
        sameAnswer]
      cases answer : (machine.createDirectory place (machine.note _ state).2).1 with
      | error reason =>
          rw [answer] at created
          exact ⟨_, _, _, _, rfl, rfl, created, .cut [] (.notCreated reason) rfl⟩
      | ok made =>
          rw [answer] at created
          obtain ⟨sameEnd, ran⟩ := follows.run invocation.name command root created
          -- What is done next depends on the answer; now that it is known, it is the run.
          change ∃ result after later record,
            (machine.run invocation.name command root >>= _) _ = _ ∧
              (follower.run invocation.name command root >>= _) _ = _ ∧ _
          rw [bind_apply, bind_apply, sameEnd]
          cases ended : (machine.run invocation.name command root _).1 with
          | error error =>
              rw [ended, List.append_assoc] at ran
              exact ⟨_, _, _, _, rfl, rfl, ran, .cut [create] (.notRun error) rfl⟩
          | ok done =>
              rw [ended] at ran
              obtain ⟨result, after, later, record, running, following, kept, cut⟩ :=
                ih (Machine.addPending pending invocation) ran
              refine ⟨result, after, later, [create, run].map (·.effect.succeeded) ++ record,
                running, following, ?_, cut.append [create, run]⟩
              rw [List.append_assoc, List.append_assoc] at kept
              exact kept

/-- The machine with a record follows the one without. -/
theorem follows_recorded (machine : Machine (StateM σ)) :
    Follows machine (recorded machine) fun state record other => other = (state, record) where
  note := by
    rintro event state record _ rfl
    rfl
  createDirectory := by
    rintro place state record _ rfl
    exact ⟨rfl, rfl⟩
  run := by
    rintro name command directory state record _ rfl
    exact ⟨rfl, rfl⟩

/-- Later repetitions of a directory are left out. -/
theorem foldl_addPending (invocations : List Invocation) :
    invocations.foldl Machine.addPending [] = pendingDirectories invocations := by
  induction invocations using List.reverseRecOn with
  | nil => rfl
  | append_singleton earlier invocation ih =>
      rw [List.foldl_append, ih, List.foldl_cons, List.foldl_nil, pendingDirectories,
        pendingDirectories, List.filter_append, List.map_append, List.eraseDups_append]
      generalize (earlier.filter (·.goGenerate)).map (·.outDirectory) = directories
      have known : directories.eraseDups.contains invocation.outDirectory =
          directories.contains invocation.outDirectory := by
        simp only [List.contains_eq_mem, List.mem_eraseDups]
      rw [Machine.addPending, known]
      cases follow : invocation.goGenerate with
      | false => simp [follow]
      | true =>
          have last : [invocation].filter (·.goGenerate) = [invocation] := by simp [follow]
          rw [last, List.map_singleton, List.removeAll, List.filter_cons, List.filter_nil,
            List.contains_eq_mem]
          by_cases already : invocation.outDirectory ∈ directories
          · simp [already]
          · simp [already, List.eraseDups_cons]

/-! ### The whole generation -/

/-- On any machine and from any root a generation has the effects of its plan, in order, up to the first
one that fails, and returns that one's error; it succeeds exactly when all ten effects were had without
a failure, and then returns the directories for `go generate`. Without files it has no effect. -/
theorem generate_cut_at_first_failure (machine : Machine (StateM σ)) (root : NativePath)
    (layout : Parameters) (toolchain : Toolchain) (protos : List String) (state : σ) :
    ∃ result after record,
      (recorded machine).generate root layout toolchain protos (state, []) =
          (result, after, record) ∧
        machine.generate root layout toolchain protos state = (result, after) ∧
        (protos = [] → record = [] ∧ result = .error .noProtos ∧ after = state) ∧
        (protos ≠ [] → CutAtFirstFailure
          (plannedSteps root toolchain protos (standardInvocations layout))
          (pendingDirectories (standardInvocations layout)) record result) ∧
        ((∃ pending, result = .ok pending) ↔
          record.length = 10 ∧ ∀ performed ∈ record, performed.failure? = none) := by
  cases protos with
  | nil =>
      refine ⟨.error .noProtos, state, [], rfl, rfl, fun _ => ⟨rfl, rfl, rfl⟩, ?_, ?_⟩
      · exact fun nonempty => absurd rfl nonempty
      · refine iff_of_false ?_ fun all => absurd all.1 (by decide)
        rintro ⟨pending, succeeded⟩
        cases succeeded
  | cons first others =>
      obtain ⟨result, after, later, record, running, recording, rfl, cut⟩ :=
        (follows_recorded machine).runAll root toolchain (first :: others) []
          (standardInvocations layout) (rfl : (state, []) = (state, []))
      rw [foldl_addPending] at cut
      refine ⟨result, after, record, recording, running, ?_, fun _ => cut, cut.ok_iff⟩
      intro empty
      cases empty

/-- A machine on which the runs of one name fail. -/
def failingAt (failing : String) : Machine (StateM Unit) where
  createDirectory := fun _ => return .ok ()
  run := fun name _ _ =>
    return if name = failing then .error (.compilerFailed name "exit status: 1") else .ok ()
  note := fun _ => return ()

/-- The third run fails, and the last two are not made. -/
theorem generate_cut_at_first_failure_config :
    let layout : Parameters := { genDir := "./gen", methodsDir := "./pkg/methods" }
    let toolchain := Toolchain.ofRoot "/opt/korpc"
    let root := NativePath.ofText "/repo"
    let outcome :=
      (recorded (failingAt "config")).generate root layout toolchain ["api.proto"] ((), [])
    CutAtFirstFailure (plannedSteps root toolchain ["api.proto"] (standardInvocations layout))
        (pendingDirectories (standardInvocations layout)) outcome.2.2 outcome.1 ∧
      outcome.1 = .error (.compilerFailed "config" "exit status: 1") ∧
      outcome.2.2.length = 6 ∧
      outcome.2.2.head? =
        some (Effect.createDirectory (.ofText "/repo/gen/proto")).succeeded := by
  intro layout toolchain root outcome
  obtain ⟨result, after, record, recording, -, -, cut, -⟩ :=
    generate_cut_at_first_failure (failingAt "config") root layout toolchain ["api.proto"] ()
  have same : outcome = (result, after, record) := recording
  refine ⟨?_, rfl, rfl, ?_⟩
  · rw [same]
    exact cut (List.cons_ne_nil _ _)
  · decide +kernel

end Pipeline

end MethodForge
