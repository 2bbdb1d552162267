/-
Module: MethodForge.Proofs.Path.Escape
Purpose: Climbing out of a directory. An escape undoes the walk into any directory that never climbs
  itself, so the root of the tree as a directive sees it leads back to where the tree starts, and a
  file named through it is the file itself.
Main exports: depth, Inward, includeRoot, isWord_toRoot, join_includeRoot, clean_join_includeRoot,
  toRoot_dot, toRoot_join
-/
import MethodForge.Proofs.Path.Join

namespace MethodForge.Path

/-- How many names a path goes down through. -/
def depth (path : String) : Nat :=
  ((components path.toList).filter isName).length

theorem escape_eq (path : String) :
    escape path = String.ofList (ofComponents (List.replicate (depth path) up)) := by
  rw [escape, List.map_const', depth]

theorem escape_congr {first second : String} (same : depth first = depth second) :
    escape first = escape second := by
  rw [escape_eq, escape_eq, same]

/-- Walking through an escape climbs once for each name. -/
theorem walk_components_escape (rooted : Bool) (stack : List (List Char)) (path : String) :
    walk rooted stack (components (escape path).toList) =
      walk rooted stack (List.replicate (depth path) up) := by
  rw [escape_eq, String.toList_ofList]
  cases depth path with
  | zero =>
      rw [List.replicate_zero, walk_nil]
      exact walk_components_of_isIdle rfl rooted stack
  | succ below =>
      have slashless : ∀ part ∈ List.replicate (below + 1) up, '/' ∉ part := by
        intro part member
        rw [List.eq_of_mem_replicate member]
        decide
      rw [components_ofComponents_of_slashless (by simp) slashless]

/-- Without climbing, a walk puts the names it meets on the stack. -/
theorem walk_of_not_mem_up {parts : List (List Char)} (never : up ∉ parts) (rooted : Bool)
    (stack : List (List Char)) :
    walk rooted stack parts = (parts.filter isName).reverse ++ stack := by
  induction parts generalizing stack with
  | nil => rfl
  | cons part parts ih =>
      obtain ⟨notUp, later⟩ : up ≠ part ∧ up ∉ parts := by simpa using never
      rw [walk_cons, ih later]
      rcases component_cases part with idle | same | name
      · have notName : ¬ isName part = true := by simp [isName, idle]
        rw [descend_of_isIdle idle, List.filter_cons_of_neg notName]
      · exact absurd same.symm notUp
      · rw [descend_of_isName name, List.filter_cons_of_pos name]
        simp

/-- Climbing as often as there are names takes them off the stack. -/
theorem walk_replicate_up {names : List (List Char)} (all : ∀ name ∈ names, isName name = true)
    (rooted : Bool) (stack : List (List Char)) :
    walk rooted (names ++ stack) (List.replicate names.length up) = stack := by
  induction names with
  | nil => rfl
  | cons name names ih =>
      rw [List.length_cons, List.replicate_succ, walk_cons, List.cons_append,
        descend_up_cons (ne_up_of_isName (all name List.mem_cons_self))]
      exact ih fun other member => all other (List.mem_cons_of_mem _ member)

/-- A path that never climbs is undone by its escape. -/
theorem walk_components_escape_self {path : String} (never : up ∉ components path.toList)
    (rooted : Bool) (stack : List (List Char)) :
    walk rooted (walk rooted stack (components path.toList)) (components (escape path).toList) =
      stack := by
  have names : ∀ name ∈ ((components path.toList).filter isName).reverse, isName name = true :=
    fun name member => (List.mem_filter.1 (List.mem_reverse.1 member)).2
  rw [walk_components_escape, walk_of_not_mem_up never, depth, ← List.length_reverse]
  exact walk_replicate_up names rooted stack

/-- A join has as many names as its walk leaves on the stack. -/
theorem depth_join (elements : List String) :
    depth (join elements) = ((joinStack elements).filter isName).length := by
  rw [join_eq]
  by_cases empty : ∀ element ∈ elements, element = ""
  · rw [if_pos empty, joinStack, walk_elementParts_of_empty empty]
    decide
  · have names : (components (written (startsAtRoot elements) (joinStack elements))).filter isName =
        (joinStack elements).reverse.filter isName := by
      rw [← filter_components_written (settled_joinStack elements), List.filter_filter]
      congr 1
      funext part
      cases idle : isIdle part <;> simp [isName, idle]
    rw [if_neg empty, depth, String.toList_ofList, names, List.filter_reverse, List.length_reverse]

/-- A path from where it is seen that never climbs. -/
def Inward (path : String) : Prop :=
  isRooted path.toList = false ∧ up ∉ components path.toList

instance (path : String) : Decidable (Inward path) :=
  inferInstanceAs (Decidable (_ ∧ _))

/-- The root of the tree from a directory, in a form that can always be given as an argument. -/
def includeRoot (nested : String) : String :=
  if (escape nested).isEmpty then "." else escape nested

theorem includeRoot_congr {first second : String} (same : depth first = depth second) :
    includeRoot first = includeRoot second := by
  rw [includeRoot, includeRoot, escape_congr same]

theorem toRoot_eq (out nested : String) :
    toRoot out nested = includeRoot (join [nested, escape out]) := rfl

theorem includeRoot_ne_empty (nested : String) : includeRoot nested ≠ "" := by
  unfold includeRoot
  split
  · decide
  · rename_i something
    simpa using something

theorem isRooted_escape (path : String) : isRooted (escape path).toList = false := by
  rw [escape_eq, String.toList_ofList]
  cases depth path with
  | zero => rfl
  | succ below =>
      rw [List.replicate_succ, isRooted_ofComponents_cons (by decide)]
      rfl

theorem isRooted_includeRoot (nested : String) : isRooted (includeRoot nested).toList = false := by
  unfold includeRoot
  split
  · rfl
  · exact isRooted_escape nested

/-- An escape is made of dots and slashes. -/
theorem solid_escape (path : String) : Text.Solid (escape path) := by
  rw [escape_eq, Text.Solid, String.toList_ofList]
  cases depth path with
  | zero => simp [ofComponents]
  | succ below =>
      have plain : Text.Solid "../.." := by decide
      have spelled : "../..".toList = up ++ '/' :: up := by decide
      intro character member
      refine plain character ?_
      rw [spelled]
      rw [List.replicate_succ, ofComponents_cons, List.mem_append, List.mem_flatMap] at member
      rcases member with first | ⟨part, inParts, inPart⟩
      · exact List.mem_append_left _ first
      · rw [List.eq_of_mem_replicate inParts] at inPart
        exact List.mem_append_right _ inPart

/-- The root of the tree, as a run sees it, is a word. -/
theorem isWord_toRoot (out nested : String) : Text.IsWord (toRoot out nested) := by
  rw [toRoot_eq]
  refine ⟨includeRoot_ne_empty _, ?_⟩
  unfold includeRoot
  split
  · decide
  · exact solid_escape _

/-- As a walk, the root of the tree is the escape. -/
theorem walk_components_includeRoot (rooted : Bool) (stack : List (List Char)) (nested : String) :
    walk rooted stack (components (includeRoot nested).toList) =
      walk rooted stack (components (escape nested).toList) := by
  unfold includeRoot
  split
  · rename_i nothing
    have empty : escape nested = "" := by simpa using nothing
    rw [empty, walk_components_of_isIdle rfl, walk_components_of_isIdle rfl]
  · rfl

/-- From a directory that never climbs, the way to the root of the tree leads back. -/
theorem join_includeRoot {nested : String} (inward : Inward nested) :
    join [nested, includeRoot nested] = "." := by
  have start : startsAtRoot [nested, includeRoot nested] = false :=
    startsAtRoot_pair inward.1 (isRooted_includeRoot nested)
  have stack : joinStack [nested, includeRoot nested] = [] := by
    rw [joinStack, elementParts_cons, elementParts_cons, elementParts_nil, List.append_nil,
      walk_append, walk_components_includeRoot, walk_components_escape_self inward.2]
  rw [join_eq, if_neg (by simp [includeRoot_ne_empty]), start, stack]
  rfl

/-- A file is named alike through the escape and through the root of the tree. -/
theorem join_escape_eq {file : String} (relative : isRooted file.toList = false)
    (nonempty : file ≠ "") (nested : String) :
    join [escape nested, file] = join [includeRoot nested, file] := by
  have start : startsAtRoot [escape nested, file] = startsAtRoot [includeRoot nested, file] := by
    rw [startsAtRoot_pair (isRooted_escape nested) relative,
      startsAtRoot_pair (isRooted_includeRoot nested) relative]
  refine join_congr (by simp [nonempty]) start ?_
  simp only [joinStack, start, elementParts_cons, walk_append, walk_components_includeRoot]

/-- A file named through the root of the tree is found from the directory. -/
theorem clean_join_includeRoot {nested file : String} (inward : Inward nested)
    (relative : isRooted file.toList = false) :
    clean (join [nested, join [includeRoot nested, file]]) = clean file := by
  have regrouped : join [nested, join [includeRoot nested, file]] =
      join [nested, includeRoot nested, file] :=
    join_regroup [nested] [includeRoot nested, file] [] fun rooted => by
      rw [startsAtRoot_pair (isRooted_includeRoot nested) relative] at rooted
      cases rooted
  calc
    clean (join [nested, join [includeRoot nested, file]])
        = clean (join [join [nested, includeRoot nested], file]) := by
          rw [regrouped, join_join, List.cons_append, List.cons_append, List.nil_append]
    _ = clean (clean file) := by rw [join_includeRoot inward, dot_join relative]
    _ = clean file := clean_clean file

/-- A run that writes next to its directive sees the root of the tree from the directory. -/
theorem toRoot_dot {nested : String} (inward : Inward nested) :
    toRoot "." nested = includeRoot nested := by
  have still : escape "." = "" := by decide
  have stack : joinStack [nested, ""] = ((components nested.toList).filter isName).reverse := by
    rw [joinStack, elementParts_cons, elementParts_cons, elementParts_nil, walk_append,
      List.append_nil, walk_components_of_isIdle rfl, walk_of_not_mem_up inward.2, List.append_nil]
  rw [toRoot_eq, still]
  refine includeRoot_congr ?_
  rw [depth_join, stack, List.filter_reverse, List.length_reverse, List.filter_filter, depth]
  simp

/-- So does a run that writes into a directory below that of its directive. -/
theorem toRoot_join {nested directory : String} (inward : Inward nested)
    (below : Inward directory) :
    toRoot directory (join [nested, directory]) = includeRoot nested := by
  have start : startsAtRoot [nested, directory] = false := startsAtRoot_pair inward.1 below.1
  have stack : joinStack [join [nested, directory], escape directory] =
      ((components nested.toList).filter isName).reverse := by
    rw [joinStack, elementParts_cons, elementParts_cons, elementParts_nil, walk_append,
      List.append_nil, walk_components_join (by simp [start]), elementParts_cons, elementParts_cons,
      elementParts_nil, List.append_nil, walk_append, walk_components_escape_self below.2,
      walk_of_not_mem_up inward.2, List.append_nil]
  rw [toRoot_eq]
  refine includeRoot_congr ?_
  rw [depth_join, stack, List.filter_reverse, List.length_reverse, List.filter_filter, depth]
  simp

end MethodForge.Path
