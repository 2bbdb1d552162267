/-
Module: MethodForge.Proofs.Path.Join
Purpose: Joins. A join walks through the components of all its elements, so a part of it may be joined
  first; only a part that starts at the root has to come first. A join is clean, and so is what
  `clean` gives.
Main exports: join_eq, join_regroup, join_join, join_grouped, join_join_below, clean_join,
  clean_clean, lastComponent_join
-/
import MethodForge.Proofs.Path.Walk

namespace MethodForge.Path

/-- All components of the elements of a join, in order. -/
def elementParts (elements : List String) : List (List Char) :=
  elements.flatMap fun element => components element.toList

/-- Whether a join starts at the root: its first element that is not empty does. -/
def startsAtRoot (elements : List String) : Bool :=
  isRooted (elements.flatMap String.toList)

/-- What a join leaves on the stack. -/
def joinStack (elements : List String) : List (List Char) :=
  walk (startsAtRoot elements) [] (elementParts elements)

@[simp] theorem elementParts_nil : elementParts [] = [] := rfl

@[simp] theorem elementParts_cons (element : String) (rest : List String) :
    elementParts (element :: rest) = components element.toList ++ elementParts rest := rfl

@[simp] theorem elementParts_append (first second : List String) :
    elementParts (first ++ second) = elementParts first ++ elementParts second := by
  simp [elementParts]

theorem slashless_of_mem_elementParts {elements : List String} {part : List Char}
    (member : part ∈ elementParts elements) : '/' ∉ part := by
  obtain ⟨element, -, inElement⟩ := List.mem_flatMap.1 member
  exact slashless_of_mem_components inElement

theorem settled_joinStack (elements : List String) :
    Settled (startsAtRoot elements) (joinStack elements) :=
  (Settled.nil _).walk fun _ member => slashless_of_mem_elementParts member

/-- Empty elements do not move the walk. -/
theorem walk_flatMap_filter (rooted : Bool) (stack : List (List Char))
    (parts : List (List Char)) :
    walk rooted stack ((parts.filter (!·.isEmpty)).flatMap components) =
      walk rooted stack (parts.flatMap components) := by
  induction parts generalizing stack with
  | nil => rfl
  | cons first rest ih =>
      cases first with
      | nil =>
          have idle : isIdle [] = true := rfl
          simpa [walk_components_of_isIdle idle] using ih stack
      | cons head tail => simp [ih]

/-- A join is empty where all its elements are, and otherwise writes what its walk leaves. -/
theorem join_eq (elements : List String) :
    join elements =
      if ∀ element ∈ elements, element = "" then ""
      else String.ofList (written (startsAtRoot elements) (joinStack elements)) := by
  by_cases empty : ∀ element ∈ elements, element = ""
  · rw [if_pos empty]
    have parts : (elements.map String.toList).filter (!·.isEmpty) = [] := by
      simpa using empty
    simp [join, parts]
  · rw [if_neg empty]
    have some : (elements.map String.toList).filter (!·.isEmpty) ≠ [] := by
      simpa using empty
    have characters : isRooted (ofComponents ((elements.map String.toList).filter (!·.isEmpty))) =
        startsAtRoot elements := by
      obtain ⟨first, rest, order⟩ := List.exists_cons_of_ne_nil some
      have nonempty : first ≠ [] := by
        have member : first ∈ (elements.map String.toList).filter (!·.isEmpty) := by
          rw [order]
          exact List.mem_cons_self
        simpa using (List.mem_filter.1 member).2
      have flat : elements.flatMap String.toList = first ++ rest.flatten := by
        rw [List.flatMap_def, ← List.flatten_filter_not_isEmpty, order, List.flatten_cons]
      rw [order, isRooted_ofComponents_cons nonempty, startsAtRoot, flat, isRooted_append,
        if_neg nonempty]
    have moves : walk (startsAtRoot elements) []
        (((elements.map String.toList).filter (!·.isEmpty)).flatMap components) =
        joinStack elements := by
      rw [walk_flatMap_filter]
      simp [joinStack, elementParts, List.flatMap_map]
    simp only [join, List.isEmpty_iff, if_neg some]
    rw [normalize_eq_written, characters, components_ofComponents some, moves]

theorem join_eq_empty_iff (elements : List String) :
    join elements = "" ↔ ∀ element ∈ elements, element = "" := by
  rw [join_eq]
  by_cases empty : ∀ element ∈ elements, element = ""
  · simp only [if_pos empty, true_iff]
    exact empty
  · rw [if_neg empty, String.ofList_eq_empty_iff]
    exact iff_of_false (written_ne_nil (settled_joinStack elements)) empty

/-- Joins agree when they are empty together, start alike and leave the same stack. -/
theorem join_congr {first second : List String}
    (empty : (∀ element ∈ first, element = "") ↔ ∀ element ∈ second, element = "")
    (start : startsAtRoot first = startsAtRoot second)
    (stack : joinStack first = joinStack second) : join first = join second := by
  rw [join_eq, join_eq, start, stack]
  simp only [empty]

theorem startsAtRoot_append (first second : List String) :
    startsAtRoot (first ++ second) =
      if ∀ element ∈ first, element = "" then startsAtRoot second else startsAtRoot first := by
  simp only [startsAtRoot, List.flatMap_append, isRooted_append]
  by_cases empty : ∀ element ∈ first, element = "" <;> simp [empty]

theorem walk_elementParts_of_empty {elements : List String}
    (empty : ∀ element ∈ elements, element = "") (rooted : Bool) (stack : List (List Char)) :
    walk rooted stack (elementParts elements) = stack := by
  induction elements with
  | nil => rfl
  | cons first rest ih =>
      have idle : isIdle first.toList = true := by
        rw [empty first List.mem_cons_self]
        rfl
      rw [elementParts_cons, walk_append, walk_components_of_isIdle idle]
      exact ih fun element member => empty element (List.mem_cons_of_mem _ member)

/-- Walking through a join is walking through its elements. A join that starts at the root has to
be walked from there. -/
theorem walk_components_join {elements : List String} {rooted : Bool} {stack : List (List Char)}
    (agree : startsAtRoot elements = true → rooted = true ∧ stack = []) :
    walk rooted stack (components (join elements).toList) =
      walk rooted stack (elementParts elements) := by
  rw [join_eq]
  by_cases empty : ∀ element ∈ elements, element = ""
  · rw [if_pos empty, walk_elementParts_of_empty empty]
    exact walk_components_of_isIdle rfl rooted stack
  · rw [if_neg empty, String.toList_ofList, walk_components_written (settled_joinStack elements),
      joinStack, walk_reverse_walk (Settled.nil _) agree
        (fun _ member => slashless_of_mem_elementParts member)]
    rfl

theorem startsAtRoot_of_empty {elements : List String}
    (empty : ∀ element ∈ elements, element = "") : startsAtRoot elements = false := by
  have nothing : elements.flatMap String.toList = [] := by simpa using empty
  rw [startsAtRoot, nothing]
  rfl

theorem isRooted_join (elements : List String) :
    isRooted (join elements).toList = startsAtRoot elements := by
  rw [join_eq]
  by_cases empty : ∀ element ∈ elements, element = ""
  · rw [if_pos empty, startsAtRoot_of_empty empty]
    rfl
  · rw [if_neg empty, String.toList_ofList, isRooted_written (settled_joinStack elements)]

/-- A join may be done first for some of the elements, unless these start at the root and follow
others that are not empty. -/
theorem join_regroup (before elements after : List String)
    (agree : startsAtRoot elements = true → ∀ element ∈ before, element = "") :
    join (before ++ join elements :: after) = join (before ++ elements ++ after) := by
  have start : startsAtRoot (before ++ join elements :: after) =
      startsAtRoot (before ++ elements ++ after) := by
    rw [List.append_cons, startsAtRoot_append, startsAtRoot_append before [join elements],
      startsAtRoot_append (before ++ elements), startsAtRoot_append before elements]
    have alone : startsAtRoot [join elements] = startsAtRoot elements := by
      rw [startsAtRoot, List.flatMap_singleton, isRooted_join]
    simp only [alone, List.forall_mem_append, List.forall_mem_singleton, join_eq_empty_iff]
  refine join_congr ?_ start ?_
  · simp only [List.forall_mem_append, List.forall_mem_cons, join_eq_empty_iff]
    exact and_assoc.symm
  · rw [joinStack, joinStack, start]
    simp only [elementParts_append, elementParts_cons, walk_append]
    rw [walk_components_join]
    -- A part that starts at the root is walked from there, so nothing may have been walked before.
    intro rooted
    have nothing := agree rooted
    have something : ¬ ∀ element ∈ before ++ elements, element = "" := by
      intro empty
      rw [startsAtRoot_of_empty fun element member =>
        empty element (List.mem_append_right before member)] at rooted
      cases rooted
    rw [walk_elementParts_of_empty nothing, startsAtRoot_append, if_neg something,
      startsAtRoot_append, if_pos nothing]
    exact ⟨rooted, rfl⟩

theorem join_join (elements after : List String) :
    join (join elements :: after) = join (elements ++ after) :=
  join_regroup [] elements after fun _ _ member => absurd member List.not_mem_nil

/-- A join starts where its first element that is not empty starts. -/
theorem startsAtRoot_eq_find? (elements : List String) :
    startsAtRoot elements =
      (elements.find? (· ≠ "")).any fun first => isRooted first.toList := by
  induction elements with
  | nil => rfl
  | cons first rest ih =>
      by_cases empty : first = ""
      · subst empty
        have begin : startsAtRoot ("" :: rest) = startsAtRoot rest := rfl
        rw [begin, ih, List.find?_cons_of_neg (by simp)]
      · have characters : first.toList ≠ [] := by simpa using empty
        rw [List.find?_cons_of_pos (by simpa using empty), startsAtRoot, List.flatMap_cons,
          isRooted_append, if_neg characters]
        rfl

/-- Joins may be regrouped: the elements at the front of a join may always be joined first, and
elements further behind when the first of them that is not empty does not start at the root. -/
theorem join_grouped (before elements after : List String) :
    join ([join before] ++ elements) = join (before ++ elements) ∧
      ((∀ first ∈ elements.find? (· ≠ ""), isRooted first.toList = false) →
        join (before ++ [join elements] ++ after) = join (before ++ elements ++ after)) := by
  refine ⟨join_join before elements, fun relative => ?_⟩
  have start : startsAtRoot elements = false := by
    rw [startsAtRoot_eq_find?]
    cases search : elements.find? (· ≠ "") with
    | none => rfl
    | some first => exact relative first search
  have agree : startsAtRoot elements = true → ∀ element ∈ before, element = "" := by
    intro rooted
    rw [start] at rooted
    cases rooted
  calc
    join (before ++ [join elements] ++ after) = join (before ++ join elements :: after) := by
      rw [List.append_assoc, List.singleton_append]
    _ = join (before ++ elements ++ after) := join_regroup before elements after agree

/-- The elements in the middle climb out of the one before them. -/
theorem join_grouped_climbing :
    (∀ first ∈ ["", "./../..", "b"].find? (· ≠ ""), isRooted first.toList = false) ∧
      join (["/a"] ++ [join ["", "./../..", "b"]] ++ ["", "c"]) = "/b/c" := by
  have relative : ∀ first ∈ ["", "./../..", "b"].find? (· ≠ ""), isRooted first.toList = false := by
    decide
  refine ⟨relative, ?_⟩
  rw [(join_grouped ["/a"] ["", "./../..", "b"] ["", "c"]).2 relative]
  decide

/-- Elements that start at the root may not be joined first behind others: what climbs there stays
at the root, where in the whole it climbs out of the others. -/
example : join ["a", join ["/..", "b"]] = "a/b" ∧ join ["a", "/..", "b"] = "b" := by decide

theorem clean_eq_written (path : String) :
    clean path = String.ofList (written (isRooted path.toList)
      (walk (isRooted path.toList) [] (components path.toList))) := by
  rw [clean, normalize_eq_written]

/-- A single element that is not empty is cleaned. -/
theorem join_singleton {path : String} (nonempty : path ≠ "") : join [path] = clean path := by
  rw [join_eq, if_neg (by simpa using nonempty), clean_eq_written]
  simp [joinStack, startsAtRoot]

/-- A join is clean. -/
theorem clean_join {elements : List String} (some : ∃ element ∈ elements, element ≠ "") :
    clean (join elements) = join elements := by
  have nonempty : join elements ≠ "" := by
    rw [ne_eq, join_eq_empty_iff]
    obtain ⟨element, member, notEmpty⟩ := some
    exact fun empty => notEmpty (empty element member)
  calc
    clean (join elements) = join [join elements] := (join_singleton nonempty).symm
    _ = join elements := by rw [join_join, List.append_nil]

/-- Elements of which none starts at the root do not start there together. -/
theorem startsAtRoot_eq_false {elements : List String}
    (relative : ∀ element ∈ elements, isRooted element.toList = false) :
    startsAtRoot elements = false := by
  induction elements with
  | nil => rfl
  | cons first rest ih =>
      have later := ih fun element member => relative element (List.mem_cons_of_mem _ member)
      rw [startsAtRoot, List.flatMap_cons, isRooted_append, relative first List.mem_cons_self]
      split
      · exact later
      · rfl

theorem startsAtRoot_pair {first second : String} (relative : isRooted first.toList = false)
    (follows : isRooted second.toList = false) : startsAtRoot [first, second] = false :=
  startsAtRoot_eq_false (by simp [relative, follows])

/-- A join below a base may be done in three steps, where none of what follows the base starts at
the root. -/
theorem join_join_below (base : String) {elements after : List String}
    (relative : ∀ element ∈ elements ++ after, isRooted element.toList = false) :
    join [base, join (join elements :: after)] = join (base :: (elements ++ after)) := by
  have below : startsAtRoot (elements ++ after) = false := startsAtRoot_eq_false relative
  have regrouped := join_regroup [base] (elements ++ after) [] fun rooted => by
    rw [below] at rooted
    cases rooted
  rw [join_join]
  simpa using regrouped

/-- A join ended by `.` is the clean path. -/
theorem join_dot (path : String) : join [path, "."] = clean path := by
  have start : startsAtRoot [path, "."] = isRooted path.toList := by
    rw [startsAtRoot, List.flatMap_cons, List.flatMap_singleton, isRooted_append]
    split
    · rename_i nothing
      rw [nothing]
      rfl
    · rfl
  rw [join_eq, if_neg (by simp), clean_eq_written, joinStack, start, elementParts_cons,
    elementParts_cons, elementParts_nil, walk_append, List.append_nil, walk_components_of_isIdle rfl]

/-- A join started by `.` is the clean path, unless that path starts at the root. -/
theorem dot_join {path : String} (relative : isRooted path.toList = false) :
    join [".", path] = clean path := by
  have start : startsAtRoot [".", path] = false := startsAtRoot_pair rfl relative
  have idle : isIdle ".".toList = true := rfl
  rw [join_eq, if_neg (by simp), clean_eq_written, joinStack, start, relative, elementParts_cons,
    elementParts_cons, elementParts_nil, walk_append, List.append_nil,
    walk_components_of_isIdle idle]

/-- A join started by `.` leaves a name as it is. -/
theorem dot_join_of_isName {name : String} (solid : isName name.toList = true)
    (slashless : '/' ∉ name.toList) : join [".", name] = name := by
  have relative := isRooted_eq_false_of_slashless slashless
  rw [dot_join relative, clean_eq_written, relative, components_of_slashless slashless, walk_cons,
    walk_nil, descend_of_isName solid]
  simp [written, ofComponents]

theorem clean_clean (path : String) : clean (clean path) = clean path := by
  rw [← join_dot path, clean_join ⟨".", by simp, by decide⟩]

/-- What stands behind the last slash of a path. -/
def lastComponent (path : String) : String :=
  String.ofList ((components path.toList).getLast?.getD [])

/-- A path ends in its last component. -/
theorem exists_eq_append_lastComponent (path : String) :
    ∃ before, path = before ++ lastComponent path := by
  have some : components path.toList ≠ [] := List.splitOn_ne_nil '/' path.toList
  obtain ⟨front, last, order⟩ : ∃ front last, components path.toList = front ++ [last] :=
    ⟨_, _, (List.dropLast_concat_getLast some).symm⟩
  have whole : ofComponents (front ++ [last]) = path.toList := by
    rw [← order]
    exact List.intercalate_splitOn '/'
  have component : lastComponent path = String.ofList last := by
    rw [lastComponent, order, List.getLast?_concat]
    rfl
  obtain ⟨before, shape⟩ : ∃ before, ofComponents (front ++ [last]) = before ++ last := by
    cases front with
    | nil => exact ⟨[], by simp [ofComponents]⟩
    | cons first rest =>
        rw [List.cons_append, ofComponents_cons, List.flatMap_append, List.flatMap_singleton]
        exact ⟨first ++ (rest.flatMap ('/' :: ·) ++ ['/']), by simp⟩
  refine ⟨String.ofList before, ?_⟩
  rw [component, ← String.ofList_append, ← shape, whole, String.ofList_toList]

/-- A join that ends in a name has it as its last component. -/
theorem lastComponent_join {name : String} (solid : isName name.toList = true)
    (slashless : '/' ∉ name.toList) (before : List String) :
    lastComponent (join (before ++ [name])) = name := by
  have nonempty : name ≠ "" := by
    rintro rfl
    simp [isName, isIdle] at solid
  have parts : elementParts (before ++ [name]) = elementParts before ++ [name.toList] := by
    rw [elementParts_append, elementParts_cons, elementParts_nil, components_of_slashless slashless,
      List.append_nil]
  obtain ⟨below, stack⟩ : ∃ below, joinStack (before ++ [name]) = name.toList :: below := by
    rw [joinStack, parts, walk_append, walk_cons, walk_nil, descend_of_isName solid]
    exact ⟨_, rfl⟩
  have settled := settled_joinStack (before ++ [name])
  rw [stack] at settled
  have spelled : components (ofComponents (name.toList :: below).reverse) =
      (name.toList :: below).reverse :=
    components_ofComponents_of_slashless (by simp)
      (fun part member => (settled part (List.mem_reverse.1 member)).2.1)
  rw [join_eq, if_neg (by simp [nonempty]), stack, lastComponent, String.toList_ofList]
  cases startsAtRoot (before ++ [name]) with
  | true =>
      rw [written, if_pos rfl, components_cons_slash, spelled, List.reverse_cons,
        ← List.cons_append, List.getLast?_concat]
      exact String.ofList_toList
  | false =>
      rw [written, if_neg (by simp), if_neg (by simp), spelled, List.reverse_cons,
        List.getLast?_concat]
      exact String.ofList_toList

end MethodForge.Path
