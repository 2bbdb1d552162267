/-
Module: MethodForge.Proofs.Registry.FirstClaim
Purpose: What callers of a shared registry can rely on. A turn either takes a free name or changes
  nothing, turns that nobody interrupts perform a call as it would be on a registry of one's own, and
  after any turns the registry is what the first claims of the names made of it.
Main exports: Sharing.next?, Sharing.step_of_taken, Sharing.step_of_free, Sharing.turns_perform,
  performAll, Sharing.Sound, first_claim_wins
-/
import MethodForge.Proofs.Registry.Sharing

namespace MethodForge.Registry

/-! ### The next claim of a caller -/

namespace Sharing

/-- The claim that a caller makes at its next turn, with the call it belongs to. -/
def next? (sharing : Sharing) (number : Nat) : Option (Call × String × Generator) := do
  let caller ← sharing.callers[number]?
  let call ← caller.calls.head?
  let claim ← call.claims[caller.made.length]?
  return (call, claim)

theorem next?_eq_some {sharing : Sharing} {number : Nat} {call : Call} {name : String}
    {generator : Generator} (next : sharing.next? number = some (call, name, generator)) :
    ∃ ended made later, sharing.callers[number]? = some ⟨ended, made, call :: later⟩ ∧
      call.claims[made.length]? = some (name, generator) := by
  simp only [next?, Option.bind_eq_bind, Option.bind_eq_some_iff, Option.pure_def,
    Option.some.injEq, Prod.mk.injEq, List.head?_eq_some_iff] at next
  obtain ⟨⟨ended, made, calls⟩, active, _, ⟨later, rfl⟩, _, claimed, rfl, rfl⟩ := next
  exact ⟨ended, made, later, active, claimed⟩

section Turns

variable {sharing : Sharing} {number : Nat} {ended : List Ended} {made : List Attempt} {call : Call}
  {later : List Call} {name : String} {generator : Generator}

theorem step_finish (active : sharing.callers[number]? = some ⟨ended, made, call :: later⟩)
    (exhausted : call.claims[made.length]? = none) :
    sharing.step number =
      { sharing with
        callers := sharing.callers.set number ⟨ended ++ [⟨call, made, .done⟩], [], later⟩ } := by
  unfold step
  rw [active]
  simp only [exhausted]

theorem step_grant (active : sharing.callers[number]? = some ⟨ended, made, call :: later⟩)
    (next : call.claims[made.length]? = some (name, generator)) {claimed : Registry}
    (granted : (sharing.registry.claim name generator).value = .ok claimed) :
    sharing.step number =
      { registry := claimed
        history := sharing.history ++ [⟨number, name, generator, true⟩]
        callers := sharing.callers.set number
          ⟨ended, made ++ [⟨number, name, generator, true⟩], call :: later⟩ } := by
  unfold step
  rw [active]
  simp only [next, granted]

theorem step_refuse (active : sharing.callers[number]? = some ⟨ended, made, call :: later⟩)
    (next : call.claims[made.length]? = some (name, generator)) {conflict : Conflict}
    (refused : (sharing.registry.claim name generator).value = .error conflict) :
    sharing.step number =
      { sharing with
        history := sharing.history ++ [⟨number, name, generator, false⟩]
        callers := sharing.callers.set number
          ⟨ended ++ [⟨call, made ++ [⟨number, name, generator, false⟩],
            (call.refuse conflict).value⟩], [], later⟩ } := by
  unfold step
  rw [active]
  simp only [next, refused]

/-- At the turn of a caller whose next claim has a taken name, the registry stays as it is and the
call is over. -/
theorem step_of_taken (next : sharing.next? number = some (call, name, generator))
    (taken : (sharing.registry.lookup name).isSome = true) :
    (sharing.step number).registry = sharing.registry ∧
      ∃ caller finished, (sharing.step number).callers[number]? = some caller ∧
        caller.ended.getLast? = some finished ∧ finished.call = call ∧
        finished.result = (call.refuse ⟨name⟩).value := by
  obtain ⟨ended, made, later, active, claimed⟩ := next?_eq_some next
  have bound := (List.getElem?_eq_some_iff.1 active).1
  cases outcome : (sharing.registry.claim name generator).value with
  | ok registry =>
      rw [(claim_ok outcome).1] at taken
      cases taken
  | error conflict =>
      obtain ⟨-, rfl⟩ := claim_error outcome
      rw [step_refuse active claimed outcome]
      exact ⟨rfl, _, _, List.getElem?_set_self bound, List.getLast?_concat .., rfl, rfl⟩

/-- At the turn of a caller whose next claim has a free name, the name gets the generator and no
other name changes. -/
theorem step_of_free (next : sharing.next? number = some (call, name, generator))
    (free : sharing.registry.lookup name = none) (other : String) :
    (sharing.step number).registry.lookup other =
      if other = name then some generator else sharing.registry.lookup other := by
  obtain ⟨ended, made, later, active, claimed⟩ := next?_eq_some next
  cases outcome : (sharing.registry.claim name generator).value with
  | ok registry =>
      rw [step_grant active claimed outcome]
      exact lookup_claim outcome other
  | error conflict =>
      have taken := (claim_error outcome).1
      rw [free] at taken
      cases taken

end Turns

end Sharing

/-! ### Calls that nobody interrupts -/

/-- Makes claims up to the first one whose name is taken. -/
def claimEach (registry : Registry) : List (String × Generator) → Registry × Option Conflict
  | [] => (registry, none)
  | (name, generator) :: rest =>
      match (registry.claim name generator).value with
      | .error conflict => (registry, some conflict)
      | .ok claimed => claimed.claimEach rest

/-- How a call ends, given the claim of it that is refused. -/
def Call.close (call : Call) : Option Conflict → CallResult
  | none => .done
  | some conflict => (call.refuse conflict).value

theorem claimAll_value (registry : Registry) (generators : List Generator) :
    (registry.claimAll generators).value =
      registry.claimEach (generators.map fun generator => (generator.name, generator)) := by
  induction generators generalizing registry with
  | nil => rfl
  | cons generator rest ih =>
      rw [claimAll, Log.Logged.value_bind, List.map_cons, claimEach]
      cases (registry.claim generator.name generator).value with
      | error conflict => rfl
      | ok claimed => exact ih claimed

theorem performClaim_value (registry : Registry) (call : Call) (name : String)
    (generator : Generator) :
    (registry.performClaim call name generator).value =
      ((registry.claimEach [(name, generator)]).1,
        call.close (registry.claimEach [(name, generator)]).2) := by
  rw [performClaim, Log.Logged.value_bind, claimEach]
  cases (registry.claim name generator).value with
  | error conflict => rfl
  | ok claimed => rfl

/-- A call makes its claims up to the first one whose name is taken. -/
theorem perform_value (registry : Registry) (call : Call) :
    (registry.perform call).value =
      ((registry.claimEach call.claims).1, call.close (registry.claimEach call.claims).2) := by
  cases call with
  | register generator => exact performClaim_value ..
  | registerAs name generator => exact performClaim_value ..
  | tryRegister generator => exact performClaim_value ..
  | tryRegisterAs name generator => exact performClaim_value ..
  | registerBuiltin toolchain =>
      rw [perform, Log.Logged.value_bind, claimAll_value, Call.claims]
      generalize registry.claimEach _ = outcome
      obtain ⟨claimed, _ | conflict⟩ := outcome
      · rfl
      · rfl

/-- The registry after calls one after the other, and how each of them ends. -/
def performAll (registry : Registry) : List Call → Registry × List CallResult
  | [] => (registry, [])
  | call :: rest =>
      let (next, result) := (registry.perform call).value
      let (final, results) := next.performAll rest
      (final, result :: results)

namespace Sharing

theorem turns_claims {left claims : List (String × Generator)} {sharing : Sharing} {number : Nat}
    {ended : List Ended} {made : List Attempt} {call : Call} {later : List Call}
    (active : sharing.callers[number]? = some ⟨ended, made, call :: later⟩)
    (parts : call.claims = claims ++ left) (place : claims.length = made.length) :
    ∃ turns finished,
      ((List.replicate turns number).foldl step sharing).registry =
          (sharing.registry.claimEach left).1 ∧
        ((List.replicate turns number).foldl step sharing).callers =
          sharing.callers.set number ⟨ended ++ [finished], [], later⟩ ∧
        finished.call = call ∧ finished.result = call.close (sharing.registry.claimEach left).2 := by
  induction left generalizing sharing made claims with
  | nil =>
      have none : call.claims[made.length]? = none := by
        rw [parts, List.append_nil, ← place]
        exact List.getElem?_eq_none (Nat.le_refl _)
      refine ⟨1, ⟨call, made, .done⟩, ?_⟩
      rw [List.replicate_one, List.foldl_cons, List.foldl_nil, step_finish active none]
      exact ⟨rfl, rfl, rfl, rfl⟩
  | cons claim rest ih =>
      obtain ⟨name, generator⟩ := claim
      have next : call.claims[made.length]? = some (name, generator) := by
        rw [parts, ← place, List.getElem?_append_right (Nat.le_refl _), Nat.sub_self]
        rfl
      have bound := (List.getElem?_eq_some_iff.1 active).1
      rw [claimEach]
      cases outcome : (sharing.registry.claim name generator).value with
      | error conflict =>
          refine ⟨1, ⟨call, made ++ [⟨number, name, generator, false⟩],
            (call.refuse conflict).value⟩, ?_⟩
          rw [List.replicate_one, List.foldl_cons, List.foldl_nil,
            step_refuse active next outcome]
          exact ⟨rfl, rfl, rfl, rfl⟩
      | ok claimed =>
          have turn := step_grant active next outcome
          have still : (sharing.step number).callers[number]? =
              some ⟨ended, made ++ [⟨number, name, generator, true⟩], call :: later⟩ := by
            rw [turn]
            exact List.getElem?_set_self bound
          have further : call.claims = (claims ++ [(name, generator)]) ++ rest := by
            rw [parts, List.append_assoc, List.singleton_append]
          obtain ⟨turns, finished, registered, callers, same, result⟩ :=
            ih still further (by simp [place])
          refine ⟨turns + 1, finished, ?_⟩
          rw [List.replicate_succ, List.foldl_cons]
          rw [turn] at registered callers result ⊢
          rw [List.set_set] at callers
          exact ⟨registered, callers, same, result⟩

/-- A call that nobody interrupts is performed as it would be on a registry of one's own. -/
theorem turns_perform {sharing : Sharing} {number : Nat} {ended : List Ended} {call : Call}
    {later : List Call} (active : sharing.callers[number]? = some ⟨ended, [], call :: later⟩) :
    ∃ turns finished,
      ((List.replicate turns number).foldl step sharing).registry =
          (sharing.registry.perform call).value.1 ∧
        ((List.replicate turns number).foldl step sharing).callers =
          sharing.callers.set number ⟨ended ++ [finished], [], later⟩ ∧
        finished.call = call ∧ finished.result = (sharing.registry.perform call).value.2 := by
  rw [perform_value]
  exact turns_claims active (List.nil_append _).symm rfl

/-- A caller without others makes its calls one after the other. -/
theorem turns_performAll {calls : List Call} {sharing : Sharing} {ended : List Ended}
    (alone : sharing.callers = [⟨ended, [], calls⟩]) :
    ∃ turns finished,
      ((List.replicate turns 0).foldl step sharing).registry =
          (sharing.registry.performAll calls).1 ∧
        ((List.replicate turns 0).foldl step sharing).callers = [⟨ended ++ finished, [], []⟩] ∧
        finished.map Ended.call = calls ∧
        finished.map Ended.result = (sharing.registry.performAll calls).2 := by
  induction calls generalizing sharing ended with
  | nil => exact ⟨0, [], rfl, by rw [List.append_nil]; exact alone, rfl, rfl⟩
  | cons call rest ih =>
      have active : sharing.callers[0]? = some ⟨ended, [], call :: rest⟩ := by
        rw [alone]
        rfl
      obtain ⟨turns, finished, registered, callers, same, result⟩ := turns_perform active
      rw [alone, List.set_cons_zero] at callers
      obtain ⟨more, others, registered', callers', same', result'⟩ := ih callers
      refine ⟨turns + more, finished :: others, ?_⟩
      rw [← List.replicate_append_replicate, List.foldl_append]
      rw [registered] at registered' result'
      rw [List.append_assoc] at callers'
      refine ⟨registered', callers', ?_, ?_⟩
      · rw [List.map_cons, same, same']
      · rw [List.map_cons, result, result', performAll]

/-- What the callers of a shared registry can rely on. -/
structure Sound (sharing : Sharing) (programs : List (List Call)) : Prop
    extends Invariant programs sharing where
  names_ascending : sharing.registry.names.Pairwise fun earlier later =>
    Text.Utf8.encode earlier < Text.Utf8.encode later
  mem_names_iff : ∀ name,
    name ∈ sharing.registry.names ↔ ∃ attempt ∈ sharing.history, attempt.name = name
  size_eq : sharing.registry.size = sharing.registry.names.length
  isEmpty_iff : sharing.registry.isEmpty = true ↔ sharing.registry.size = 0
  /-- A claim of a taken name changes nothing, and the caller is told or panics. -/
  taken : ∀ number call name generator, sharing.next? number = some (call, name, generator) →
    (sharing.registry.lookup name).isSome = true →
    (sharing.step number).registry = sharing.registry ∧
      ∃ caller finished, (sharing.step number).callers[number]? = some caller ∧
        caller.ended.getLast? = some finished ∧ finished.call = call ∧
        finished.result = (call.refuse ⟨name⟩).value ∧
        (finished.result = .refused ⟨name⟩ ∨ finished.result = .panicked (Conflict.message ⟨name⟩))
  /-- A claim of a free name is granted. -/
  free : ∀ number call name generator, sharing.next? number = some (call, name, generator) →
    sharing.registry.lookup name = none → ∀ other,
    (sharing.step number).registry.lookup other =
      if other = name then some generator else sharing.registry.lookup other
  /-- Where the five generators could not all be put in, those before the refused one were. -/
  builtin_stopped : ∀ caller ∈ sharing.callers, ∀ finished ∈ caller.ended, ∀ toolchain text,
    finished.call = .registerBuiltin toolchain → finished.result = .panicked text →
    ∃ before refused after, builtinGenerators toolchain = before ++ refused :: after ∧
      finished.made.map (fun attempt => (attempt.claim, attempt.granted)) =
        before.map (fun generator => ((generator.name, generator), true)) ++
          [((refused.name, refused), false)] ∧
      (∀ generator ∈ before, sharing.registry.lookup generator.name = some generator) ∧
      text = Conflict.message ⟨refused.name⟩
  /-- A call that nobody interrupts is performed as on a registry of one's own. -/
  uninterrupted : ∀ number ended call later,
    sharing.callers[number]? = some ⟨ended, [], call :: later⟩ →
    ∃ turns finished,
      ((List.replicate turns number).foldl step sharing).registry =
          (sharing.registry.perform call).value.1 ∧
        ((List.replicate turns number).foldl step sharing).callers =
          sharing.callers.set number ⟨ended ++ [finished], [], later⟩ ∧
        finished.call = call ∧ finished.result = (sharing.registry.perform call).value.2

/-- How a call can end when it is refused. -/
theorem refuse_value (call : Call) (conflict : Conflict) :
    (call.refuse conflict).value = .refused conflict ∨
      (call.refuse conflict).value = .panicked conflict.message := by
  cases call with
  | tryRegister | tryRegisterAs => exact Or.inl rfl
  | register | registerAs | registerBuiltin => exact Or.inr rfl

/-- A call that puts in the five generators makes its claims in their order. -/
theorem builtin_claims {toolchain : Toolchain} {made : List Attempt} {refused : Attempt}
    (first : (made ++ [refused]).map Attempt.claim <+: (Call.registerBuiltin toolchain).claims) :
    ∃ before generator after, builtinGenerators toolchain = before ++ generator :: after ∧
      made.map Attempt.claim = before.map (fun generator => (generator.name, generator)) ∧
      refused.claim = (generator.name, generator) := by
  obtain ⟨tail, whole⟩ := first
  obtain ⟨front, after, parts, claimed, -⟩ := List.map_eq_append_iff.1 whole.symm
  rw [List.map_append, List.map_singleton] at claimed
  obtain ⟨before, last, rfl, beforeClaimed, lastClaimed⟩ := List.map_eq_append_iff.1 claimed
  obtain ⟨generator, rfl, same⟩ := List.map_eq_singleton_iff.1 lastClaimed
  refine ⟨before, generator, after, ?_, beforeClaimed.symm, same.symm⟩
  rw [parts, List.append_assoc, List.singleton_append]

theorem builtin_stopped {programs : List (List Call)} {sharing : Sharing}
    (invariant : Invariant programs sharing) {caller : Caller} (inCallers : caller ∈ sharing.callers)
    {finished : Ended} (member : finished ∈ caller.ended) {toolchain : Toolchain} {text : String}
    (call : finished.call = .registerBuiltin toolchain) (result : finished.result = .panicked text) :
    ∃ before refused after, builtinGenerators toolchain = before ++ refused :: after ∧
      finished.made.map (fun attempt => (attempt.claim, attempt.granted)) =
        before.map (fun generator => ((generator.name, generator), true)) ++
          [((refused.name, refused), false)] ∧
      (∀ generator ∈ before, sharing.registry.lookup generator.name = some generator) ∧
      text = Conflict.message ⟨refused.name⟩ := by
  obtain ⟨number, found⟩ := List.getElem?_of_mem inCallers
  have tracked := invariant.tracked number caller found
  cases tracked.ended finished member with
  | done all granted => cases result
  | stopped first granted taken =>
      rename_i made refused
      cases call
      cases result
      obtain ⟨before, generator, after, parts, claimed, last⟩ := builtin_claims first
      have allGranted : made.map (fun attempt => (attempt.claim, attempt.granted)) =
          (made.map Attempt.claim).map fun claim => (claim, true) := by
        rw [List.map_map]
        refine List.map_congr_left ?_
        intro attempt inMade
        rw [granted attempt inMade, Function.comp_apply]
      refine ⟨before, generator, after, parts, ?_, ?_, ?_⟩
      · rw [List.map_append, allGranted, claimed, List.map_map, List.map_singleton, last, taken]
        rfl
      · intro generator inBefore
        have inClaims : (generator.name, generator) ∈ made.map Attempt.claim := by
          rw [claimed]
          exact List.mem_map_of_mem inBefore
        obtain ⟨attempt, inMade, claim⟩ := List.mem_map.1 inClaims
        have found := invariant.recorded.lookup_of_granted
          (tracked.mem_history member (List.mem_append_left _ inMade)) (granted attempt inMade)
        rwa [show attempt.name = generator.name from congrArg Prod.fst claim,
          show attempt.generator = generator from congrArg Prod.snd claim] at found
      · rw [show refused.name = generator.name from congrArg Prod.fst last]

theorem sound_run (programs : List (List Call)) (schedule : List Nat) :
    Sound (run programs schedule) programs := by
  have invariant := invariant_run programs schedule
  refine { invariant with
    names_ascending := names_ascending _
    mem_names_iff := ?_
    size_eq := size_eq_length_names _
    isEmpty_iff := Registry.isEmpty_iff _
    taken := ?_
    free := fun _ _ _ _ next free other => step_of_free next free other
    builtin_stopped := fun _ inCallers _ member _ _ call result =>
      builtin_stopped invariant inCallers member call result
    uninterrupted := fun _ _ _ _ active => turns_perform active }
  · intro name
    rw [mem_names, invariant.recorded.lookup_eq, Option.isSome_map, List.find?_isSome]
    simp only [beq_iff_eq]
  · intro number call name generator next taken
    obtain ⟨same, caller, finished, found, last, sameCall, result⟩ := step_of_taken next taken
    refine ⟨same, caller, finished, found, last, sameCall, result, ?_⟩
    rw [result]
    exact refuse_value call ⟨name⟩

end Sharing

/-- Whatever calls several callers make of a shared registry, and in whatever order their claims take
turns, each name has the generator of its first claim, every later claim of the name is refused and
changes nothing, and a call stops at its first refused claim. A caller that is alone makes its calls
one after the other. -/
theorem first_claim_wins (programs : List (List Call)) :
    (∀ schedule, (Sharing.run programs schedule).Sound programs) ∧
      ∀ calls, ∃ schedule finished,
        (Sharing.run [calls] schedule).registry = (empty.performAll calls).1 ∧
        (Sharing.run [calls] schedule).callers = [⟨finished, [], []⟩] ∧
        finished.map Ended.call = calls ∧ finished.map Ended.result = (empty.performAll calls).2 := by
  refine ⟨fun schedule => Sharing.sound_run programs schedule, ?_⟩
  intro calls
  have alone : (Sharing.start [calls]).callers = [⟨[], [], calls⟩] := rfl
  obtain ⟨turns, finished, registered, callers, same, results⟩ := Sharing.turns_performAll alone
  exact ⟨List.replicate turns 0, finished, registered, callers, same, results⟩

/-- A generator that gives no files. -/
def silent : Generator where
  name := "silent"
  generate := fun _ _ => return .ok []

/-- One caller puts in the five generators while another one takes `entrypoint`. -/
theorem first_claim_wins_entrypoint :
    let programs := [[.registerBuiltin (.ofRoot "/opt")], [.tryRegisterAs "entrypoint" silent]]
    let sharing := Sharing.run programs [0, 1, 0, 0]
    sharing.Sound programs ∧ sharing.registry.names = ["entrypoint", "methods", "scaffold"] ∧
      sharing.callers.map (fun caller => caller.ended.map Ended.result) =
        [[.panicked "Duplicate generator named \"entrypoint\" registered"], []] :=
  ⟨(first_claim_wins _).1 _, by decide +kernel, by decide +kernel⟩

end MethodForge.Registry
