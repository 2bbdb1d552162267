/-
Module: MethodForge.Proofs.Registry
Purpose: A registry keeps what it is given. A claim that is granted found its name free, puts the
  generator there and leaves every other name alone, so generators that were all granted their names
  are all found under them in the end, beside those that were there before.
Main exports: claim_ok, claim_error, lookup_claim, lookup_claimAll_of_lookup, lookup_claimAll,
  lookup_claimAll_eq, claimAll_of_free, claimAll_builtin, lookup_builtin, HoldsOnly,
  holdsOnly_claimAll, holdsOnly_builtin, names_ascending, mem_names
-/
import MethodForge.Proofs.Text.Utf8
import MethodForge.Registry

namespace MethodForge.Registry

/-! ### The listing -/

/-- The names are listed in the order of their bytes, none twice. -/
theorem names_ascending (registry : Registry) :
    registry.names.Pairwise fun earlier later =>
      Text.Utf8.encode earlier < Text.Utf8.encode later :=
  registry.generators.keys_pairwise.imp Text.Utf8.encode_lt

/-- The names that are listed are those under which there is a generator. -/
theorem mem_names {registry : Registry} {name : String} :
    name ∈ registry.names ↔ (registry.lookup name).isSome :=
  SortedMap.mem_keys

theorem size_eq_length_names (registry : Registry) : registry.size = registry.names.length :=
  (List.length_map ..).symm

theorem isEmpty_iff (registry : Registry) : registry.isEmpty = true ↔ registry.size = 0 := by
  rw [isEmpty, SortedMap.isEmpty, List.isEmpty_iff_length_eq_zero]
  rfl

/-! ### Claims -/

/-- What a granted claim does. -/
theorem claim_ok {registry claimed : Registry} {name : String} {generator : Generator}
    (granted : (registry.claim name generator).value = .ok claimed) :
    registry.lookup name = none ∧ claimed = ⟨registry.generators.insert name generator⟩ := by
  unfold claim at granted
  split at granted
  · cases granted
  · rename_i free
    refine ⟨?_, ?_⟩
    · simpa [SortedMap.contains, lookup] using free
    · cases granted
      rfl

/-- A claim is refused because its name is taken, and says so. -/
theorem claim_error {registry : Registry} {name : String} {generator : Generator}
    {conflict : Conflict} (refused : (registry.claim name generator).value = .error conflict) :
    (registry.lookup name).isSome = true ∧ conflict = ⟨name⟩ := by
  unfold claim at refused
  split at refused
  · rename_i taken
    cases refused
    exact ⟨taken, rfl⟩
  · cases refused

theorem lookup_claim_self {registry claimed : Registry} {name : String} {generator : Generator}
    (granted : (registry.claim name generator).value = .ok claimed) :
    claimed.lookup name = some generator := by
  obtain ⟨-, rfl⟩ := claim_ok granted
  exact SortedMap.find?_insert_self registry.generators name generator

/-- A granted claim takes no generator away. -/
theorem lookup_claim_of_lookup {registry claimed : Registry} {name other : String}
    {generator known : Generator} (granted : (registry.claim name generator).value = .ok claimed)
    (found : registry.lookup other = some known) : claimed.lookup other = some known := by
  obtain ⟨free, rfl⟩ := claim_ok granted
  have different : other ≠ name := by
    rintro rfl
    rw [free] at found
    cases found
  exact (SortedMap.find?_insert_other registry.generators different generator).trans found

/-- A granted claim puts its generator under its name and changes nothing under any other. -/
theorem lookup_claim {registry claimed : Registry} {name : String} {generator : Generator}
    (granted : (registry.claim name generator).value = .ok claimed) (other : String) :
    claimed.lookup other = if other = name then some generator else registry.lookup other := by
  split
  · rename_i same
    rw [same, lookup_claim_self granted]
  · rename_i different
    obtain ⟨-, rfl⟩ := claim_ok granted
    exact SortedMap.find?_insert_other registry.generators different generator

/-- When all claims are granted, the first one is and all those behind it are. -/
theorem claimAll_cons_none {registry filled : Registry} {generator : Generator}
    {rest : List Generator}
    (granted : (registry.claimAll (generator :: rest)).value = (filled, none)) :
    ∃ next, (registry.claim generator.name generator).value = .ok next ∧
      (next.claimAll rest).value = (filled, none) := by
  rw [claimAll, Log.Logged.value_bind] at granted
  cases first : (registry.claim generator.name generator).value with
  | error conflict =>
      rw [first] at granted
      cases granted
  | ok next =>
      rw [first] at granted
      exact ⟨next, rfl, granted⟩

/-- What was found before is found when all claims are granted. -/
theorem lookup_claimAll_of_lookup {generators : List Generator} {registry filled : Registry}
    {name : String} {known : Generator}
    (granted : (registry.claimAll generators).value = (filled, none))
    (found : registry.lookup name = some known) : filled.lookup name = some known := by
  induction generators generalizing registry with
  | nil =>
      cases granted
      exact found
  | cons generator rest ih =>
      obtain ⟨next, first, later⟩ := claimAll_cons_none granted
      exact ih later (lookup_claim_of_lookup first found)

/-- When all claims are granted, every generator is found under its name. -/
theorem lookup_claimAll {generators : List Generator} {registry filled : Registry}
    (granted : (registry.claimAll generators).value = (filled, none)) {generator : Generator}
    (member : generator ∈ generators) : filled.lookup generator.name = some generator := by
  induction generators generalizing registry with
  | nil => cases member
  | cons first rest ih =>
      obtain ⟨next, granting, later⟩ := claimAll_cons_none granted
      rcases List.mem_cons.1 member with rfl | inRest
      · exact lookup_claimAll_of_lookup later (lookup_claim_self granting)
      · exact ih later inRest

/-- When all claims are granted, what is found is what was there before or one of the generators. -/
theorem lookup_claimAll_eq {generators : List Generator} {registry filled : Registry}
    (granted : (registry.claimAll generators).value = (filled, none)) (name : String) :
    filled.lookup name = (registry.lookup name).or (generators.find? (·.name == name)) := by
  induction generators generalizing registry with
  | nil =>
      cases granted
      simp
  | cons generator rest ih =>
      obtain ⟨next, first, later⟩ := claimAll_cons_none granted
      rw [ih later, lookup_claim first, List.find?_cons]
      by_cases same : name = generator.name
      · have free : registry.lookup name = none := same ▸ (claim_ok first).1
        rw [if_pos same, free, same, beq_self_eq_true]
        rfl
      · rw [if_neg same, beq_false_of_ne (Ne.symm same)]

/-- Claims of names that are free and all different are granted. -/
theorem claimAll_of_free {generators : List Generator} {registry : Registry}
    (free : ∀ generator ∈ generators, registry.lookup generator.name = none)
    (distinct : (generators.map Generator.name).Nodup) :
    (registry.claimAll generators).value.2 = none := by
  induction generators generalizing registry with
  | nil => rfl
  | cons generator rest ih =>
      obtain ⟨notLater, distinctLater⟩ := List.nodup_cons.1 distinct
      have granted : (registry.claim generator.name generator).value =
          .ok ⟨registry.generators.insert generator.name generator⟩ := by
        have notTaken : registry.generators.contains generator.name = false := by
          simpa [SortedMap.contains, lookup] using free generator List.mem_cons_self
        rw [claim, notTaken]
        rfl
      rw [claimAll, Log.Logged.value_bind, granted]
      refine ih ?_ distinctLater
      intro other member
      have different : other.name ≠ generator.name := fun same =>
        notLater (same ▸ List.mem_map_of_mem member)
      exact (SortedMap.find?_insert_other registry.generators different generator).trans
        (free other (List.mem_cons_of_mem _ member))

/-- The five generators do not take each other's names. -/
theorem claimAll_builtin (toolchain : Toolchain) :
    (empty.claimAll (builtinGenerators toolchain)).value = ((builtin toolchain).value, none) := by
  have names : (builtinGenerators toolchain).map Generator.name =
      ["methods", "scaffold", "entrypoint", "config", "gateway"] := rfl
  have granted : (empty.claimAll (builtinGenerators toolchain)).value.2 = none :=
    claimAll_of_free (fun _ _ => rfl) (by rw [names]; decide)
  rw [builtin, Log.Logged.value_bind, ← granted]
  rfl

/-- A name finds the one of the five generators that has it. -/
theorem lookup_builtin (toolchain : Toolchain) (name : String) :
    (builtin toolchain).value.lookup name =
      (builtinGenerators toolchain).find? (·.name == name) :=
  lookup_claimAll_eq (claimAll_builtin toolchain) name

/-! ### Nothing but what was given -/

/-- Whether every generator that is found is one of the given ones. -/
def HoldsOnly (registry : Registry) (generators : List Generator) : Prop :=
  ∀ name generator, registry.lookup name = some generator → generator ∈ generators

theorem holdsOnly_claim {registry claimed : Registry} {name : String} {generator : Generator}
    {generators : List Generator} (before : registry.HoldsOnly generators)
    (member : generator ∈ generators)
    (granted : (registry.claim name generator).value = .ok claimed) :
    claimed.HoldsOnly generators := by
  intro other known found
  by_cases same : other = name
  · subst same
    rw [lookup_claim_self granted] at found
    cases found
    exact member
  · obtain ⟨-, rfl⟩ := claim_ok granted
    rw [lookup, SortedMap.find?_insert_other registry.generators same generator] at found
    exact before other known found

/-- Claims put nothing into a registry but the generators they are made for, granted or not. -/
theorem holdsOnly_claimAll {registry : Registry} {generators claiming : List Generator}
    (before : registry.HoldsOnly generators)
    (members : ∀ generator ∈ claiming, generator ∈ generators) :
    (registry.claimAll claiming).value.1.HoldsOnly generators := by
  induction claiming generalizing registry with
  | nil => exact before
  | cons generator rest ih =>
      have member := members generator List.mem_cons_self
      have later : ∀ other ∈ rest, other ∈ generators := fun other inRest =>
        members other (List.mem_cons_of_mem _ inRest)
      rw [claimAll, Log.Logged.value_bind]
      cases first : (registry.claim generator.name generator).value with
      | error conflict => exact before
      | ok next => exact ih (holdsOnly_claim before member first) later

theorem holdsOnly_empty (generators : List Generator) : empty.HoldsOnly generators := by
  intro name generator found
  cases found

/-- The registry of the five generators holds no other. -/
theorem holdsOnly_builtin (toolchain : Toolchain) :
    (builtin toolchain).value.HoldsOnly (builtinGenerators toolchain) := by
  have filled : (empty.claimAll (builtinGenerators toolchain)).value.1.HoldsOnly
      (builtinGenerators toolchain) :=
    holdsOnly_claimAll (holdsOnly_empty _) fun _ member => member
  rwa [claimAll_builtin] at filled

end MethodForge.Registry
