/-
Module: MethodForge.Proofs.Path.Walk
Purpose: Normalization as a walk. The components of a path are steps that move a stack, and the stack
  is written out as a path in the end. What a walk leaves can be replayed: its parts, read from the
  bottom, have the effect of the whole walk on any other stack. This is why a path may be
  normalized in pieces.
Main exports: walk, Settled, written, walk_reverse_walk, walk_components_of_isIdle,
  walk_components_written
-/
import MethodForge.Path
import MethodForge.Proofs.Text.Words

namespace MethodForge.Path

/-- The stack after walking through components, starting from a given one. -/
def walk (rooted : Bool) (stack parts : List (List Char)) : List (List Char) :=
  parts.foldl (descend rooted) stack

@[simp] theorem walk_nil (rooted : Bool) (stack : List (List Char)) :
    walk rooted stack [] = stack := rfl

@[simp] theorem walk_cons (rooted : Bool) (stack : List (List Char)) (part : List Char)
    (parts : List (List Char)) :
    walk rooted stack (part :: parts) = walk rooted (descend rooted stack part) parts := rfl

@[simp] theorem walk_append (rooted : Bool) (stack first second : List (List Char)) :
    walk rooted stack (first ++ second) = walk rooted (walk rooted stack first) second :=
  List.foldl_append

theorem descend_of_isIdle {part : List Char} (idle : isIdle part = true) (rooted : Bool)
    (stack : List (List Char)) : descend rooted stack part = stack := by
  simp [descend, idle]

theorem descend_of_isName {part : List Char} (name : isName part = true) (rooted : Bool)
    (stack : List (List Char)) : descend rooted stack part = part :: stack := by
  have parts : isIdle part = false ∧ part ≠ up := by simpa [isName] using name
  simp [descend, parts]

theorem descend_up_cons {top : List Char} (name : top ≠ up) (rooted : Bool)
    (below : List (List Char)) : descend rooted (top :: below) up = below := by
  simp [descend, isIdle, up] at name ⊢
  intro same
  exact absurd same name

theorem descend_relative_up_cons_up (below : List (List Char)) :
    descend false (up :: below) up = up :: up :: below := by
  simp [descend, isIdle, up]

theorem descend_up_nil (rooted : Bool) :
    descend rooted [] up = if rooted then [] else [up] := by
  simp [descend, isIdle, up]

/-- Idle components do not move the walk. -/
theorem walk_filter_not_isIdle (rooted : Bool) (stack parts : List (List Char)) :
    walk rooted stack (parts.filter fun part => !isIdle part) = walk rooted stack parts := by
  induction parts generalizing stack with
  | nil => rfl
  | cons part parts ih =>
      cases idle : isIdle part with
      | true => simp [idle, descend_of_isIdle idle, ih]
      | false => simp [idle, ih]

/-- A stack that normalization can leave: no part of it is idle or holds a slash, and at the root
nothing climbs. -/
def Settled (rooted : Bool) (stack : List (List Char)) : Prop :=
  ∀ part ∈ stack, isIdle part = false ∧ '/' ∉ part ∧ (rooted = true → part ≠ up)

theorem Settled.nil (rooted : Bool) : Settled rooted [] := by
  intro part member
  cases member

theorem Settled.of_cons {rooted : Bool} {top : List Char} {below : List (List Char)}
    (settled : Settled rooted (top :: below)) : Settled rooted below :=
  fun part member => settled part (List.mem_cons_of_mem _ member)

theorem Settled.cons {rooted : Bool} {top : List Char} {below : List (List Char)}
    (settled : Settled rooted below)
    (fits : isIdle top = false ∧ '/' ∉ top ∧ (rooted = true → top ≠ up)) :
    Settled rooted (top :: below) := by
  intro part member
  rcases List.mem_cons.1 member with rfl | inBelow
  · exact fits
  · exact settled part inBelow

/-- A component does nothing, climbs, or names a directory. -/
theorem component_cases (part : List Char) :
    isIdle part = true ∨ part = up ∨ isName part = true := by
  by_cases idle : isIdle part = true
  · exact Or.inl idle
  · by_cases climbs : part = up
    · exact Or.inr (Or.inl climbs)
    · exact Or.inr (Or.inr (by simp [isName, idle, climbs]))

theorem not_idle_of_isName {part : List Char} (name : isName part = true) :
    isIdle part = false := by
  have both : isIdle part = false ∧ part ≠ up := by simpa [isName] using name
  exact both.1

theorem ne_up_of_isName {part : List Char} (name : isName part = true) : part ≠ up := by
  have both : isIdle part = false ∧ part ≠ up := by simpa [isName] using name
  exact both.2

/-- One step keeps a stack settled. -/
theorem Settled.descend {rooted : Bool} {stack : List (List Char)} (settled : Settled rooted stack)
    {part : List Char} (slashless : '/' ∉ part) : Settled rooted (descend rooted stack part) := by
  rcases component_cases part with idle | rfl | name
  · rw [descend_of_isIdle idle]
    exact settled
  · cases stack with
    | nil =>
        rw [descend_up_nil]
        cases rooted with
        | true => exact Settled.nil true
        | false => exact (Settled.nil false).cons ⟨rfl, by decide, by simp⟩
    | cons top below =>
        by_cases climbs : top = up
        · subst climbs
          cases rooted with
          | true => exact absurd rfl ((settled up List.mem_cons_self).2.2 rfl)
          | false =>
              rw [descend_relative_up_cons_up]
              exact settled.cons ⟨rfl, by decide, by simp⟩
        · rw [descend_up_cons climbs]
          exact settled.of_cons
  · rw [descend_of_isName name]
    exact settled.cons ⟨not_idle_of_isName name, slashless, fun _ => ne_up_of_isName name⟩

/-- A walk keeps a stack settled. -/
theorem Settled.walk {rooted : Bool} {stack : List (List Char)} (settled : Settled rooted stack)
    {parts : List (List Char)} (slashless : ∀ part ∈ parts, '/' ∉ part) :
    Settled rooted (walk rooted stack parts) := by
  induction parts generalizing stack with
  | nil => exact settled
  | cons part parts ih =>
      rw [walk_cons]
      exact ih (settled.descend (slashless part List.mem_cons_self))
        (fun other member => slashless other (List.mem_cons_of_mem _ member))

/-- Replaying what a step leaves has the effect of the step itself. -/
theorem walk_reverse_descend {rooted start : Bool} {stack left : List (List Char)}
    (settled : Settled start left) (agree : start = true → rooted = true ∧ stack = [])
    (part : List Char) :
    walk rooted stack (descend start left part).reverse =
      descend rooted (walk rooted stack left.reverse) part := by
  rcases component_cases part with idle | rfl | name
  · rw [descend_of_isIdle idle, descend_of_isIdle idle]
  · cases left with
    | nil =>
        cases start with
        | true =>
            obtain ⟨rfl, rfl⟩ := agree rfl
            simp [descend_up_nil]
        | false => simp [descend_up_nil]
    | cons top below =>
        by_cases climbs : top = up
        · subst climbs
          cases start with
          | true => exact absurd rfl ((settled up List.mem_cons_self).2.2 rfl)
          | false => simp [descend_relative_up_cons_up]
        · have name : isName top = true := by
            simp [isName, (settled top List.mem_cons_self).1, climbs]
          rw [descend_up_cons climbs, List.reverse_cons, walk_append, walk_cons, walk_nil,
            descend_of_isName name, descend_up_cons climbs]
  · rw [descend_of_isName name]
    simp

/-- Replaying what a walk leaves has the effect of the walk itself. A walk that starts at the root
can only be replayed at the root. -/
theorem walk_reverse_walk {rooted start : Bool} {stack left : List (List Char)}
    (settled : Settled start left) (agree : start = true → rooted = true ∧ stack = [])
    {parts : List (List Char)} (slashless : ∀ part ∈ parts, '/' ∉ part) :
    walk rooted stack (walk start left parts).reverse =
      walk rooted (walk rooted stack left.reverse) parts := by
  induction parts generalizing left with
  | nil => rfl
  | cons part parts ih =>
      have later := ih (settled.descend (slashless part List.mem_cons_self))
        (fun other member => slashless other (List.mem_cons_of_mem _ member))
      rw [walk_cons, later, walk_reverse_descend settled agree, walk_cons]

/-! ### Components of written paths -/

theorem components_cons_slash (path : List Char) :
    components ('/' :: path) = [] :: components path :=
  List.splitOn_append_cons_self_of_not_mem (show '/' ∉ [] from List.not_mem_nil) path

theorem components_append_slash (first second : List Char) :
    components (first ++ '/' :: second) = components first ++ components second :=
  List.splitOn_append_cons_self first second

theorem components_of_slashless {part : List Char} (slashless : '/' ∉ part) :
    components part = [part] :=
  List.splitOn_eq_singleton slashless

/-- The empty path and `.` do not move the walk. -/
theorem walk_components_of_isIdle {path : List Char} (idle : isIdle path = true) (rooted : Bool)
    (stack : List (List Char)) : walk rooted stack (components path) = stack := by
  have slashless : '/' ∉ path := by
    have short : path = [] ∨ path = ['.'] := by simpa [isIdle] using idle
    rcases short with rfl | rfl
    · exact List.not_mem_nil
    · decide
  rw [components_of_slashless slashless, walk_cons, walk_nil, descend_of_isIdle idle]

/-- No component holds a slash. -/
theorem slashless_of_mem_components {path part : List Char} (member : part ∈ components path) :
    '/' ∉ part :=
  Text.not_mem_of_mem_splitOn member

/-- Paths joined by slashes have the components of all of them, in order. -/
theorem components_ofComponents {parts : List (List Char)} (nonempty : parts ≠ []) :
    components (ofComponents parts) = parts.flatMap components := by
  induction parts with
  | nil => exact absurd rfl nonempty
  | cons first rest ih =>
      cases rest with
      | nil => simp [ofComponents]
      | cons second rest =>
          have tail : components (ofComponents (second :: rest)) =
              (second :: rest).flatMap components := ih (by simp)
          have written : ofComponents (first :: second :: rest) =
              first ++ '/' :: ofComponents (second :: rest) := by
            simp [ofComponents]
          rw [written, components_append_slash, tail, ← List.flatMap_cons]

theorem components_ofComponents_of_slashless {parts : List (List Char)} (nonempty : parts ≠ [])
    (slashless : ∀ part ∈ parts, '/' ∉ part) : components (ofComponents parts) = parts :=
  List.splitOn_intercalate '/' slashless nonempty

/-- The path that a stack stands for. -/
def written (rooted : Bool) (stack : List (List Char)) : List Char :=
  if rooted then '/' :: ofComponents stack.reverse
  else if stack.isEmpty then ['.']
  else ofComponents stack.reverse

theorem normalize_eq_written (path : List Char) :
    normalize path = written (isRooted path) (walk (isRooted path) [] (components path)) := by
  simp [normalize, written, normalStack, walk]

theorem isRooted_append (first second : List Char) :
    isRooted (first ++ second) = if first = [] then isRooted second else isRooted first := by
  cases first with
  | nil => rfl
  | cons head tail =>
      by_cases slash : head = '/'
      · subst slash
        rfl
      · simp [isRooted, slash]

theorem isRooted_eq_false_of_slashless {part : List Char} (slashless : '/' ∉ part) :
    isRooted part = false := by
  unfold isRooted
  split
  · simp at slashless
  · rfl

theorem ofComponents_cons (first : List Char) (rest : List (List Char)) :
    ofComponents (first :: rest) = first ++ rest.flatMap ('/' :: ·) :=
  Text.intercalate_cons '/' first rest

theorem isRooted_ofComponents_cons {first : List Char} (nonempty : first ≠ [])
    (rest : List (List Char)) : isRooted (ofComponents (first :: rest)) = isRooted first := by
  rw [ofComponents_cons, isRooted_append, if_neg nonempty]

theorem ne_nil_of_not_idle {part : List Char} (moves : isIdle part = false) : part ≠ [] := by
  rintro rfl
  simp [isIdle] at moves

/-- A stack that is not empty is written from its bottom, which is a component of its own. -/
theorem exists_written_relative {stack : List (List Char)} (settled : Settled false stack)
    (nonempty : stack ≠ []) :
    ∃ first rest, first ≠ [] ∧ '/' ∉ first ∧ written false stack = ofComponents (first :: rest) := by
  obtain ⟨first, rest, order⟩ := List.exists_cons_of_ne_nil (List.reverse_ne_nil_iff.2 nonempty)
  have member : first ∈ stack := by
    rw [← List.mem_reverse, order]
    exact List.mem_cons_self
  have fits := settled first member
  exact ⟨first, rest, ne_nil_of_not_idle fits.1, fits.2.1, by simp [written, nonempty, order]⟩

theorem isRooted_written {rooted : Bool} {stack : List (List Char)}
    (settled : Settled rooted stack) : isRooted (written rooted stack) = rooted := by
  cases rooted with
  | true => rfl
  | false =>
      by_cases empty : stack = []
      · subst empty
        rfl
      · obtain ⟨first, rest, nonempty, slashless, shape⟩ := exists_written_relative settled empty
        rw [shape, isRooted_ofComponents_cons nonempty]
        exact isRooted_eq_false_of_slashless slashless

theorem written_ne_nil {rooted : Bool} {stack : List (List Char)}
    (settled : Settled rooted stack) : written rooted stack ≠ [] := by
  cases rooted with
  | true => simp [written]
  | false =>
      by_cases empty : stack = []
      · simp [written, empty]
      · obtain ⟨first, rest, nonempty, -, shape⟩ := exists_written_relative settled empty
        rw [shape, ofComponents_cons]
        simp [nonempty]

/-- The components of a written stack that are not idle are its parts from the bottom. -/
theorem filter_components_written {rooted : Bool} {stack : List (List Char)}
    (settled : Settled rooted stack) :
    (components (written rooted stack)).filter (fun part => !isIdle part) = stack.reverse := by
  have moving : stack.reverse.filter (fun part => !isIdle part) = stack.reverse :=
    List.filter_eq_self.2 fun part member => by
      simp [(settled part (List.mem_reverse.1 member)).1]
  by_cases empty : stack = []
  · subst empty
    cases rooted <;> decide
  · have parts : components (ofComponents stack.reverse) = stack.reverse :=
      components_ofComponents_of_slashless (by simpa using empty)
        (fun part member => (settled part (List.mem_reverse.1 member)).2.1)
    cases rooted with
    | true =>
        have shape : written true stack = '/' :: ofComponents stack.reverse := rfl
        rw [shape, components_cons_slash, parts, List.filter_cons_of_neg (by simp [isIdle]), moving]
    | false =>
        have shape : written false stack = ofComponents stack.reverse := by
          simp [written, empty]
        rw [shape, parts, moving]

/-- Walking through a written stack is walking through its parts from the bottom. -/
theorem walk_components_written {rooted start : Bool} {stack left : List (List Char)}
    (settled : Settled start left) :
    walk rooted stack (components (written start left)) = walk rooted stack left.reverse := by
  rw [← walk_filter_not_isIdle, filter_components_written settled]

end MethodForge.Path
