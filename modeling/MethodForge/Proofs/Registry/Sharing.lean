/-
Module: MethodForge.Proofs.Registry.Sharing
Purpose: A registry that several callers share. Each caller makes its calls in order, a call makes its
  claims one at a time, and the callers take turns in any way. Whatever the order of the turns, a
  name belongs to the generator that was claimed for it first, a refused claim changes nothing, and
  a call that is refused has made exactly the claims before the refused one.
Main exports: Call.claims, Sharing, Sharing.step, Sharing.run, Sharing.Step, Recorded,
  Caller.Tracked, Sharing.Invariant, Sharing.invariant_run
-/
import MethodForge.Proofs.Registry

namespace MethodForge.Registry

/-- The claims that a call makes when none is refused. -/
def Call.claims : Call → List (String × Generator)
  | .register generator | .tryRegister generator => [(generator.name, generator)]
  | .registerAs name generator | .tryRegisterAs name generator => [(name, generator)]
  | .registerBuiltin toolchain =>
      (builtinGenerators toolchain).map fun generator => (generator.name, generator)

/-- A claim that a caller has made. -/
structure Attempt where
  caller : Nat
  name : String
  generator : Generator
  granted : Bool

/-- What was claimed. -/
def Attempt.claim (attempt : Attempt) : String × Generator :=
  (attempt.name, attempt.generator)

/-- A call that is over, with the claims it made. -/
structure Ended where
  call : Call
  made : List Attempt
  result : CallResult

/-- A caller: the calls that are over, the claims of the call under way, and the calls that are not
over, the one under way first. A panic ends the call, not the caller. -/
structure Caller where
  ended : List Ended := []
  made : List Attempt := []
  calls : List Call

/-- The claims that a caller has made, in order. -/
def Caller.attempts (caller : Caller) : List Attempt :=
  caller.ended.flatMap Ended.made ++ caller.made

/-- A registry, the claims that were made of it, and the callers that share it. -/
structure Sharing where
  registry : Registry := .empty
  history : List Attempt := []
  callers : List Caller

namespace Sharing

/-- One turn of a caller: the next claim of the call under way, or the end of a call that has made
all its claims. -/
def step (sharing : Sharing) (number : Nat) : Sharing :=
  match sharing.callers[number]? with
  | none | some ⟨_, _, []⟩ => sharing
  | some ⟨ended, made, call :: later⟩ =>
      match call.claims[made.length]? with
      | none =>
          { sharing with
            callers := sharing.callers.set number ⟨ended ++ [⟨call, made, .done⟩], [], later⟩ }
      | some (name, generator) =>
          match (sharing.registry.claim name generator).value with
          | .ok claimed =>
              let attempt := ⟨number, name, generator, true⟩
              { registry := claimed
                history := sharing.history ++ [attempt]
                callers := sharing.callers.set number
                  ⟨ended, made ++ [attempt], call :: later⟩ }
          | .error conflict =>
              let attempt := ⟨number, name, generator, false⟩
              let finished := ⟨call, made ++ [attempt], (call.refuse conflict).value⟩
              { sharing with
                history := sharing.history ++ [attempt]
                callers := sharing.callers.set number ⟨ended ++ [finished], [], later⟩ }

/-- The callers before any turn, and a registry without generators. -/
def start (programs : List (List Call)) : Sharing :=
  { callers := programs.map fun calls => { calls } }

/-- The callers after turns in the given order. -/
def run (programs : List (List Call)) (schedule : List Nat) : Sharing :=
  schedule.foldl step (start programs)

/-! ### What a turn can do -/

/-- The four ways a turn can go. -/
inductive Step (sharing : Sharing) (number : Nat) : Sharing → Prop where
  | idle : Step sharing number sharing
  | finish {ended : List Ended} {made : List Attempt} {call : Call} {later : List Call}
      (active : sharing.callers[number]? = some ⟨ended, made, call :: later⟩)
      (exhausted : call.claims[made.length]? = none) :
      Step sharing number { sharing with
        callers := sharing.callers.set number ⟨ended ++ [⟨call, made, .done⟩], [], later⟩ }
  | grant {ended : List Ended} {made : List Attempt} {call : Call} {later : List Call}
      {name : String} {generator : Generator} {claimed : Registry}
      (active : sharing.callers[number]? = some ⟨ended, made, call :: later⟩)
      (next : call.claims[made.length]? = some (name, generator))
      (granted : (sharing.registry.claim name generator).value = .ok claimed) :
      Step sharing number
        { registry := claimed
          history := sharing.history ++ [⟨number, name, generator, true⟩]
          callers := sharing.callers.set number
            ⟨ended, made ++ [⟨number, name, generator, true⟩], call :: later⟩ }
  | refuse {ended : List Ended} {made : List Attempt} {call : Call} {later : List Call}
      {name : String} {generator : Generator} {conflict : Conflict}
      (active : sharing.callers[number]? = some ⟨ended, made, call :: later⟩)
      (next : call.claims[made.length]? = some (name, generator))
      (refused : (sharing.registry.claim name generator).value = .error conflict) :
      Step sharing number { sharing with
        history := sharing.history ++ [⟨number, name, generator, false⟩]
        callers := sharing.callers.set number
          ⟨ended ++ [⟨call, made ++ [⟨number, name, generator, false⟩],
            (call.refuse conflict).value⟩], [], later⟩ }

theorem step_spec (sharing : Sharing) (number : Nat) : Step sharing number (sharing.step number) := by
  unfold step
  split
  · exact .idle
  · exact .idle
  · rename_i ended made call later active
    split
    · rename_i exhausted
      exact .finish active exhausted
    · rename_i name generator next
      split
      · rename_i claimed granted
        exact .grant active next granted
      · rename_i conflict refused
        exact .refuse active next refused

end Sharing

/-! ### The first claim of a name -/

/-- Whether a registry is what claims made of it: each name has the generator of the first claim of
the name, and of the claims those were granted that were the first of their names. -/
structure Recorded (registry : Registry) (history : List Attempt) : Prop where
  lookup_eq : ∀ name,
    registry.lookup name = (history.find? (·.name == name)).map Attempt.generator
  granted_iff : ∀ place attempt, history[place]? = some attempt →
    (attempt.granted = true ↔ ∀ earlier ∈ history.take place, earlier.name ≠ attempt.name)

namespace Recorded

variable {registry : Registry} {history : List Attempt}

theorem nil : Recorded .empty [] := by
  refine ⟨fun name => rfl, ?_⟩
  intro place attempt found
  cases found

/-- A name is free as long as nobody has claimed it. -/
theorem lookup_eq_none_iff (recorded : Recorded registry history) (name : String) :
    registry.lookup name = none ↔ ∀ earlier ∈ history, earlier.name ≠ name := by
  rw [recorded.lookup_eq, Option.map_eq_none_iff, List.find?_eq_none]
  simp only [beq_iff_eq]

/-- One more claim, granted exactly when its name is free. -/
theorem granted_iff_concat (recorded : Recorded registry history) {attempt : Attempt}
    (decided : attempt.granted = true ↔ registry.lookup attempt.name = none) (place : Nat)
    (other : Attempt) (found : (history ++ [attempt])[place]? = some other) :
    other.granted = true ↔
      ∀ earlier ∈ (history ++ [attempt]).take place, earlier.name ≠ other.name := by
  rcases Nat.lt_or_ge place history.length with before | after
  · rw [List.getElem?_append_left before] at found
    rw [List.take_append_of_le_length (Nat.le_of_lt before)]
    exact recorded.granted_iff place other found
  · have last : place = history.length := by
      have bound := (List.getElem?_eq_some_iff.1 found).1
      rw [List.length_append, List.length_singleton] at bound
      omega
    subst last
    rw [List.getElem?_concat_length] at found
    cases found
    rw [List.take_left, decided, recorded.lookup_eq_none_iff]

/-- A granted claim is recorded. -/
theorem grant (recorded : Recorded registry history) {name : String} {generator : Generator}
    {claimed : Registry} (granted : (registry.claim name generator).value = .ok claimed)
    (number : Nat) : Recorded claimed (history ++ [⟨number, name, generator, true⟩]) := by
  have free := (claim_ok granted).1
  refine ⟨?_, recorded.granted_iff_concat (iff_of_true rfl free)⟩
  intro other
  rw [lookup_claim granted, recorded.lookup_eq, List.find?_append, List.find?_singleton]
  by_cases same : other = name
  · have nobody : history.find? (·.name == other) = none := by
      rwa [recorded.lookup_eq, Option.map_eq_none_iff, ← same] at free
    rw [if_pos same, nobody, same, beq_self_eq_true]
    rfl
  · rw [if_neg same, beq_false_of_ne (Ne.symm same)]
    simp

/-- A refused claim is recorded, and the registry stays as it is. -/
theorem refuse (recorded : Recorded registry history) {name : String} {generator : Generator}
    {conflict : Conflict} (refused : (registry.claim name generator).value = .error conflict)
    (number : Nat) : Recorded registry (history ++ [⟨number, name, generator, false⟩]) := by
  have taken := (claim_error refused).1
  have undecided : ¬ registry.lookup name = none := Option.isSome_iff_ne_none.1 taken
  refine ⟨?_, recorded.granted_iff_concat (iff_of_false Bool.false_ne_true undecided)⟩
  intro other
  rw [recorded.lookup_eq, List.find?_append, List.find?_singleton]
  by_cases same : other = name
  · rw [recorded.lookup_eq, Option.isSome_map, ← same] at taken
    obtain ⟨first, found⟩ := Option.isSome_iff_exists.1 taken
    rw [found, Option.some_or]
  · rw [beq_false_of_ne (Ne.symm same)]
    simp

/-- What was granted is found. -/
theorem lookup_of_granted (recorded : Recorded registry history) {attempt : Attempt}
    (member : attempt ∈ history) (granted : attempt.granted = true) :
    registry.lookup attempt.name = some attempt.generator := by
  obtain ⟨place, found⟩ := List.getElem?_of_mem member
  have first := (recorded.granted_iff place attempt found).1 granted
  have split : history = history.take place ++ attempt :: history.drop (place + 1) := by
    obtain ⟨bound, rfl⟩ := List.getElem?_eq_some_iff.1 found
    rw [← List.drop_eq_getElem_cons bound, List.take_append_drop]
  have nobody : (history.take place).find? (·.name == attempt.name) = none := by
    rw [List.find?_eq_none]
    intro earlier inFront same
    exact first earlier inFront (beq_iff_eq.1 same)
  rw [recorded.lookup_eq, split, List.find?_append, nobody, Option.none_or, List.find?_cons,
    beq_self_eq_true, Option.map_some]

end Recorded

/-! ### What a call has done -/

/-- Whether a call that is over made the claims it had to make: all of them, each granted, or those
up to the first refused one. -/
inductive Ended.Accounted : Ended → Prop where
  | done {call : Call} {made : List Attempt} (all : made.map Attempt.claim = call.claims)
      (granted : ∀ attempt ∈ made, attempt.granted = true) : Accounted ⟨call, made, .done⟩
  | stopped {call : Call} {made : List Attempt} {refused : Attempt}
      (first : (made ++ [refused]).map Attempt.claim <+: call.claims)
      (granted : ∀ attempt ∈ made, attempt.granted = true) (taken : refused.granted = false) :
      Accounted ⟨call, made ++ [refused], (call.refuse ⟨refused.name⟩).value⟩

/-- Whether a caller's own record agrees with the history of all claims, and each of its calls with
the claims it had to make. -/
structure Caller.Tracked (number : Nat) (history : List Attempt) (caller : Caller) : Prop where
  history_eq : history.filter (·.caller == number) = caller.attempts
  ended : ∀ finished ∈ caller.ended, finished.Accounted
  under_way : caller.made.map Attempt.claim <+: (caller.calls.head?.map Call.claims).getD []
  granted : ∀ attempt ∈ caller.made, attempt.granted = true

namespace Caller.Tracked

variable {number : Nat} {history : List Attempt} {ended : List Ended} {made : List Attempt}
  {call : Call} {later : List Call}

/-- A claim under way is the next one of its call. -/
theorem concat_claim (tracked : Caller.Tracked number history ⟨ended, made, call :: later⟩)
    {attempt : Attempt} (next : call.claims[made.length]? = some attempt.claim) :
    (made ++ [attempt]).map Attempt.claim <+: call.claims := by
  have before : made.map Attempt.claim = call.claims.take made.length := by
    have cut := List.prefix_iff_eq_take.1 tracked.under_way
    rwa [List.length_map] at cut
  have after : call.claims.take (made.length + 1) = (made ++ [attempt]).map Attempt.claim := by
    rw [List.take_add_one, next, ← before, List.map_append]
    rfl
  rw [← after]
  exact List.take_prefix ..

theorem finish (tracked : Caller.Tracked number history ⟨ended, made, call :: later⟩)
    (exhausted : call.claims[made.length]? = none) :
    Caller.Tracked number history ⟨ended ++ [⟨call, made, .done⟩], [], later⟩ := by
  refine ⟨?_, ?_, List.nil_prefix, by simp⟩
  · simpa [Caller.attempts] using tracked.history_eq
  · have all : made.map Attempt.claim = call.claims := by
      refine tracked.under_way.eq_of_length_le ?_
      simpa using exhausted
    intro other member
    rcases List.mem_append.1 member with before | last
    · exact tracked.ended other before
    · rw [List.mem_singleton.1 last]
      exact .done all tracked.granted

theorem grant (tracked : Caller.Tracked number history ⟨ended, made, call :: later⟩)
    {name : String} {generator : Generator}
    (next : call.claims[made.length]? = some (name, generator)) :
    Caller.Tracked number (history ++ [⟨number, name, generator, true⟩])
      ⟨ended, made ++ [⟨number, name, generator, true⟩], call :: later⟩ := by
  refine ⟨?_, tracked.ended, tracked.concat_claim next, ?_⟩
  · have before := tracked.history_eq
    simp only [Caller.attempts] at before ⊢
    rw [List.filter_append, before, List.append_assoc]
    simp
  · intro attempt member
    rcases List.mem_append.1 member with before | last
    · exact tracked.granted attempt before
    · rw [List.mem_singleton.1 last]

theorem refuse (tracked : Caller.Tracked number history ⟨ended, made, call :: later⟩)
    {name : String} {generator : Generator}
    (next : call.claims[made.length]? = some (name, generator)) :
    Caller.Tracked number (history ++ [⟨number, name, generator, false⟩])
      ⟨ended ++ [⟨call, made ++ [⟨number, name, generator, false⟩],
        (call.refuse ⟨name⟩).value⟩], [], later⟩ := by
  refine ⟨?_, ?_, List.nil_prefix, by simp⟩
  · have before := tracked.history_eq
    simp only [Caller.attempts] at before ⊢
    rw [List.filter_append, before]
    simp
  · intro other member
    rcases List.mem_append.1 member with before | last
    · exact tracked.ended other before
    · rw [List.mem_singleton.1 last]
      exact .stopped (tracked.concat_claim next) tracked.granted rfl

/-- The claims of others are none of a caller's business. -/
theorem other {caller : Caller} (tracked : caller.Tracked number history) {attempt : Attempt}
    (different : attempt.caller ≠ number) : caller.Tracked number (history ++ [attempt]) := by
  refine { tracked with history_eq := ?_ }
  rw [List.filter_append, tracked.history_eq]
  simp [beq_false_of_ne different]

/-- The claims of a call that is over are in the history. -/
theorem mem_history {caller : Caller} (tracked : caller.Tracked number history) {finished : Ended}
    (member : finished ∈ caller.ended) {attempt : Attempt} (inFinished : attempt ∈ finished.made) :
    attempt ∈ history := by
  have inCaller : attempt ∈ caller.attempts :=
    List.mem_append_left _ (List.mem_flatMap.2 ⟨finished, member, inFinished⟩)
  rw [← tracked.history_eq] at inCaller
  exact (List.mem_filter.1 inCaller).1

end Caller.Tracked

/-! ### What holds after any turns -/

/-- The calls of a caller: those that are over and those that are not. -/
def Caller.program (caller : Caller) : List Call :=
  caller.ended.map Ended.call ++ caller.calls

namespace Sharing

/-- What every turn preserves. -/
structure Invariant (programs : List (List Call)) (sharing : Sharing) : Prop where
  recorded : Recorded sharing.registry sharing.history
  tracked : ∀ (number : Nat) (caller : Caller), sharing.callers[number]? = some caller →
    caller.Tracked number sharing.history
  programs_eq : sharing.callers.map Caller.program = programs

theorem invariant_start (programs : List (List Call)) : Invariant programs (start programs) := by
  refine ⟨.nil, ?_, ?_⟩
  · intro number caller found
    rw [start, List.getElem?_map, Option.map_eq_some_iff] at found
    obtain ⟨calls, -, rfl⟩ := found
    exact ⟨rfl, by simp, List.nil_prefix, by simp⟩
  · rw [start, List.map_map]
    exact List.map_id' programs

/-- A turn changes the record of one caller. -/
theorem tracked_set {sharing : Sharing} {programs : List (List Call)}
    (before : Invariant programs sharing) {number : Nat} {after : Caller} {history : List Attempt}
    (own : after.Tracked number history)
    (others : ∀ (other : Nat) (caller : Caller), other ≠ number →
      caller.Tracked other sharing.history → caller.Tracked other history) (other : Nat) (caller : Caller)
    (found : (sharing.callers.set number after)[other]? = some caller) :
    caller.Tracked other history := by
  by_cases same : number = other
  · subst same
    obtain ⟨bound, -⟩ := List.getElem?_eq_some_iff.1 found
    rw [List.length_set] at bound
    rw [List.getElem?_set_self bound] at found
    cases found
    exact own
  · rw [List.getElem?_set_ne same] at found
    exact others other caller (Ne.symm same) (before.tracked other caller found)

/-- A turn leaves the calls that a caller makes as they are. -/
theorem programs_set {sharing : Sharing} {number : Nat} {caller after : Caller}
    (active : sharing.callers[number]? = some caller) (same : after.program = caller.program) :
    (sharing.callers.set number after).map Caller.program = sharing.callers.map Caller.program := by
  obtain ⟨bound, rfl⟩ := List.getElem?_eq_some_iff.1 active
  rw [List.map_set, same, ← List.map_set, List.set_getElem_self]

theorem invariant_step {sharing : Sharing} {programs : List (List Call)}
    (before : Invariant programs sharing) (number : Nat) :
    Invariant programs (sharing.step number) := by
  have turn := step_spec sharing number
  generalize sharing.step number = next at turn
  cases turn with
  | idle => exact before
  | finish active exhausted =>
      have tracked := before.tracked number _ active
      refine ⟨before.recorded, ?_, ?_⟩
      · exact tracked_set before (tracked.finish exhausted) fun _ _ _ still => still
      · exact (programs_set active (by simp [Caller.program])).trans before.programs_eq
  | grant active next granted =>
      have tracked := before.tracked number _ active
      refine ⟨before.recorded.grant granted number, ?_, ?_⟩
      · exact tracked_set before (tracked.grant next) fun _ _ different still =>
          still.other (Ne.symm different)
      · exact (programs_set active (by rfl)).trans before.programs_eq
  | refuse active next refused =>
      have tracked := before.tracked number _ active
      obtain ⟨-, rfl⟩ := claim_error refused
      refine ⟨before.recorded.refuse refused number, ?_, ?_⟩
      · exact tracked_set before (tracked.refuse next) fun _ _ different still =>
          still.other (Ne.symm different)
      · exact (programs_set active (by simp [Caller.program])).trans before.programs_eq

theorem invariant_run (programs : List (List Call)) (schedule : List Nat) :
    Invariant programs (run programs schedule) := by
  suffices preserved : ∀ sharing, Invariant programs sharing →
      Invariant programs (schedule.foldl step sharing) from
    preserved _ (invariant_start programs)
  induction schedule with
  | nil => exact fun _ before => before
  | cons number rest ih => exact fun _ before => ih _ (invariant_step before number)

end Sharing

end MethodForge.Registry
