/-
Module: MethodForge.Proofs.Fallible
Purpose: Computations that may fail. What a computation of several steps gives comes from what its
  steps give, and it fails as its first step that fails. A list of them succeeds when each of them
  does, and stops at the first that does not.
Main exports: bind_eq_ok_iff, bind_eq_error_iff, map_eq_ok_iff, map_eq_error_iff,
  mapM_eq_ok_map_iff, mapM_eq_error_iff
-/

namespace MethodForge.Fallible

variable {ε α β : Type}

section

variable {first : Except ε α} {cause : ε}

theorem bind_eq_ok_iff {next : α → Except ε β} {result : β} :
    (first >>= next) = .ok result ↔ ∃ value, first = .ok value ∧ next value = .ok result := by
  cases first <;> simp [bind, Except.bind]

theorem bind_eq_error_iff {next : α → Except ε β} :
    (first >>= next) = .error cause ↔
      first = .error cause ∨ ∃ value, first = .ok value ∧ next value = .error cause := by
  cases first <;> simp [bind, Except.bind]

theorem map_eq_ok_iff {change : α → β} {result : β} :
    (change <$> first) = .ok result ↔ ∃ value, first = .ok value ∧ change value = result := by
  cases first <;> simp [Functor.map, Except.map]

theorem map_eq_error_iff {change : α → β} :
    (change <$> first) = .error cause ↔ first = .error cause := by
  cases first <;> simp [Functor.map, Except.map]

end

/-! ### Lists of computations -/

/-- A list of computations gives the results of all of them. -/
theorem mapM_eq_ok_map_iff {run : α → Except ε β} {result : α → β} {inputs : List α} :
    inputs.mapM run = .ok (inputs.map result) ↔
      ∀ input ∈ inputs, run input = .ok (result input) := by
  induction inputs with
  | nil => simp [pure, Except.pure]
  | cons input rest ih =>
      simp only [List.mapM_cons, bind_eq_ok_iff, List.forall_mem_cons, ← ih]
      constructor
      · rintro ⟨value, found, values, later, same⟩
        cases same
        exact ⟨found, later⟩
      · rintro ⟨found, later⟩
        exact ⟨_, found, _, later, rfl⟩

/-- A list of computations fails as the first of them that fails. -/
theorem mapM_eq_error_iff {run : α → Except ε β} {inputs : List α} {cause : ε} :
    inputs.mapM run = .error cause ↔
      ∃ before input after, inputs = before ++ input :: after ∧
        (∀ earlier ∈ before, ∃ value, run earlier = .ok value) ∧ run input = .error cause := by
  induction inputs with
  | nil => simp [pure, Except.pure]
  | cons first rest ih =>
      rw [List.mapM_cons, bind_eq_error_iff]
      constructor
      · rintro (failed | ⟨value, found, failed⟩)
        · exact ⟨[], first, rest, rfl, by simp, failed⟩
        · rcases bind_eq_error_iff.1 failed with failed | ⟨_, _, done⟩
          · obtain ⟨before, input, after, rfl, passed, failed⟩ := ih.1 failed
            exact ⟨first :: before, input, after, rfl, by simpa using ⟨⟨value, found⟩, passed⟩, failed⟩
          · cases done
      · rintro ⟨before, input, after, order, passed, failed⟩
        cases before with
        | nil =>
            cases order
            exact .inl failed
        | cons earlier before =>
            cases order
            obtain ⟨⟨value, found⟩, others⟩ := List.forall_mem_cons.1 passed
            have later := ih.2 ⟨before, input, after, rfl, others, failed⟩
            exact .inr ⟨value, found, bind_eq_error_iff.2 (.inl later)⟩

end MethodForge.Fallible
