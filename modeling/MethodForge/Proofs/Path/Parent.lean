/-
Module: MethodForge.Proofs.Path.Parent
Purpose: A path and its two halves. What stands behind the last slash, joined to the directory of the
  path, is the clean path again; this holds for every path, also where the last component climbs or
  is empty. So the Go code for the messages of a file is looked for in the directory that holds the
  file, wherever the messages of all files are put.
Main exports: lastComponent_of_slashless, lastComponent_append_slash, parent_append_slash,
  join_parent_lastComponent, clean_parent, isRooted_parent, join_below_parent_iff, parent_recomposes
-/
import MethodForge.Naming
import MethodForge.Proofs.Path.Escape
import MethodForge.Proofs.Path.NormalForm

namespace MethodForge.Path

/-! ### The last slash -/

/-- A path has no slash, or it has a last one. -/
theorem slashless_or_exists_last (path : String) :
    '/' ∉ path.toList ∨
      ∃ front name, path = String.ofList (front ++ '/' :: name) ∧ '/' ∉ name := by
  by_cases slash : '/' ∈ path.toList
  · obtain ⟨name, front, order, outside⟩ := List.eq_append_cons_of_mem (List.mem_reverse.2 slash)
    refine Or.inr ⟨front.reverse, name.reverse, ?_, by simpa using outside⟩
    rw [← String.toList_inj, String.toList_ofList, ← List.reverse_inj, order]
    simp
  · exact Or.inl slash

theorem lastComponent_of_slashless {path : String} (slashless : '/' ∉ path.toList) :
    lastComponent path = path := by
  rw [lastComponent, components_of_slashless slashless]
  exact String.ofList_toList

theorem lastComponent_append_slash (front : List Char) {name : List Char} (slashless : '/' ∉ name) :
    lastComponent (String.ofList (front ++ '/' :: name)) = String.ofList name := by
  rw [lastComponent, String.toList_ofList, components_append_slash,
    components_of_slashless slashless, List.getLast?_concat]
  rfl

/-- What is looked through from its end for a slash is passed over when it has none. -/
theorem dropWhile_reverse_of_slashless {name : List Char} (slashless : '/' ∉ name)
    (before : List Char) :
    (name.reverse ++ before).dropWhile (· != '/') = before.dropWhile (· != '/') := by
  refine List.dropWhile_append_of_pos fun character member => ?_
  rw [bne_iff_ne]
  rintro rfl
  exact slashless (List.mem_reverse.1 member)

theorem parent_of_slashless {path : String} (slashless : '/' ∉ path.toList) : parent path = "." := by
  have nothing : directoryPart path.toList = [] := by
    rw [directoryPart, ← List.append_nil path.toList.reverse,
      dropWhile_reverse_of_slashless slashless]
    rfl
  simp [parent, nothing]

/-- The directory of a path is what stands up to its last slash, cleaned. -/
theorem parent_append_slash (front : List Char) {name : List Char} (slashless : '/' ∉ name) :
    parent (String.ofList (front ++ '/' :: name)) = clean (String.ofList (front ++ ['/'])) := by
  have directory : directoryPart (front ++ '/' :: name) = front ++ ['/'] := by
    rw [directoryPart, List.reverse_append, List.reverse_cons, List.append_assoc,
      dropWhile_reverse_of_slashless slashless]
    simp
  simp [parent, directory, clean]

/-- A path may be cut behind a slash before it is joined. -/
theorem join_cut_behind_slash (front name : List Char) :
    join [String.ofList (front ++ ['/']), String.ofList name] =
      clean (String.ofList (front ++ '/' :: name)) := by
  have some : ¬ ∀ element ∈ [String.ofList (front ++ ['/']), String.ofList name], element = "" := by
    simp
  have start : startsAtRoot [String.ofList (front ++ ['/']), String.ofList name] =
      isRooted (front ++ '/' :: name) := by
    simp [startsAtRoot]
  -- The slash that ends the first element has an empty component behind it, which does nothing.
  have idle : isIdle [] = true := rfl
  rw [join_eq, if_neg some, clean_eq_written, joinStack, start, String.toList_ofList]
  simp [components_append_slash, walk_components_of_isIdle idle]

/-! ### The directory of a path -/

section

variable (path : String)

/-- A path is recomposed from its directory and what stands behind its last slash. -/
theorem join_parent_lastComponent : join [parent path, lastComponent path] = clean path := by
  rcases slashless_or_exists_last path with slashless | ⟨front, name, rfl, slashless⟩
  · rw [parent_of_slashless slashless, lastComponent_of_slashless slashless]
    exact dot_join (isRooted_eq_false_of_slashless slashless)
  · rw [parent_append_slash front slashless, lastComponent_append_slash front slashless,
      ← join_singleton (by simp), join_join]
    exact join_cut_behind_slash front name

/-- The directory of a path is clean. -/
theorem clean_parent : clean (parent path) = parent path := by
  rcases slashless_or_exists_last path with slashless | ⟨front, name, rfl, slashless⟩
  · rw [parent_of_slashless slashless]
    decide
  · rw [parent_append_slash front slashless, clean_clean]

/-- The directory of a path starts where the path does. -/
theorem isRooted_parent : isRooted (parent path).toList = isRooted path.toList := by
  rcases slashless_or_exists_last path with slashless | ⟨front, name, rfl, slashless⟩
  · rw [parent_of_slashless slashless, isRooted_eq_false_of_slashless slashless]
    rfl
  · rw [parent_append_slash front slashless, isRooted_clean, String.toList_ofList,
      String.toList_ofList, isRooted_append, isRooted_append]
    rfl

end

/-! ### Directories below others -/

/-- At the root a walk leaves nothing but names. -/
theorem isName_of_mem_walk_root {parts : List (List Char)} (slashless : ∀ part ∈ parts, '/' ∉ part) :
    ∀ part ∈ walk true [] parts, isName part = true := by
  intro part member
  obtain ⟨moves, -, notUp⟩ := (Settled.nil true).walk slashless part member
  simp [isName, moves, notUp rfl]

/-- Below a directory, a clean path that starts at the root enters the names that are left of it. -/
theorem walk_components_clean {path : String} (rooted : isRooted path.toList = true) (start : Bool)
    (stack : List (List Char)) :
    walk start stack (components (clean path).toList) =
      walk true [] (components path.toList) ++ stack := by
  have slashless : ∀ part ∈ components path.toList, '/' ∉ part :=
    fun _ member => slashless_of_mem_components member
  have names := isName_of_mem_walk_root slashless
  have never : up ∉ (walk true [] (components path.toList)).reverse := by
    rw [List.mem_reverse]
    exact fun member => ne_up_of_isName (names up member) rfl
  rw [clean_eq_written, rooted, String.toList_ofList,
    walk_components_written ((Settled.nil true).walk slashless), walk_of_not_mem_up never,
    List.filter_reverse, List.filter_eq_self.2 names, List.reverse_reverse]

/-- One step has the same effect above a stack as at the root, unless it climbs with nothing left to
climb out of. -/
theorem descend_append_iff {names : List (List Char)} {top : List Char}
    (entered : ∀ name ∈ names, isName name = true) (named : isName top = true) (start : Bool)
    (stack : List (List Char)) (part : List Char) :
    descend start (names ++ top :: stack) part = descend true names part ++ top :: stack ↔
      ¬ (names = [] ∧ part = up) := by
  rcases component_cases part with idle | rfl | name
  · have notUp : part ≠ up := by
      rintro rfl
      cases idle
    simp [descend_of_isIdle idle, notUp]
  · cases names with
    | nil =>
        rw [List.nil_append, descend_up_cons (ne_up_of_isName named), descend_up_nil]
        simp
    | cons last below =>
        have notUp := ne_up_of_isName (entered last List.mem_cons_self)
        rw [List.cons_append, descend_up_cons notUp, descend_up_cons notUp]
        simp
  · simp [descend_of_isName name, ne_up_of_isName name]

/-- Joins that are not empty agree exactly when they start alike and leave the same stack. -/
theorem join_eq_iff {first second : List String} (one : ∃ element ∈ first, element ≠ "")
    (other : ∃ element ∈ second, element ≠ "") :
    join first = join second ↔
      startsAtRoot first = startsAtRoot second ∧ joinStack first = joinStack second := by
  rw [join_eq, join_eq, if_neg (by simpa using one), if_neg (by simpa using other)]
  constructor
  · intro same
    exact written_injective (settled_joinStack first) (settled_joinStack second)
      (String.ofList_injective same)
  · rintro ⟨start, stack⟩
    rw [start, stack]

section

variable {before : List String} {top : List Char} {stack : List (List Char)}

theorem exists_ne_empty_of_joinStack (reached : joinStack before = top :: stack) :
    ∃ element ∈ before, element ≠ "" := by
  by_cases empty : ∀ element ∈ before, element = ""
  · rw [joinStack, walk_elementParts_of_empty empty] at reached
    cases reached
  · simpa using empty

theorem startsAtRoot_append_of_joinStack (reached : joinStack before = top :: stack)
    (after : List String) : startsAtRoot (before ++ after) = startsAtRoot before := by
  rw [startsAtRoot_append, if_neg (by simpa using exists_ne_empty_of_joinStack reached)]

theorem joinStack_append_of_joinStack (reached : joinStack before = top :: stack)
    (after : List String) :
    joinStack (before ++ after) = walk (startsAtRoot before) (top :: stack) (elementParts after) := by
  rw [joinStack, startsAtRoot_append_of_joinStack reached, elementParts_append, walk_append,
    ← reached]
  rfl

end

theorem slashless_lastComponent (path : String) : '/' ∉ (lastComponent path).toList := by
  rcases slashless_or_exists_last path with slashless | ⟨front, name, rfl, slashless⟩
  · rwa [lastComponent_of_slashless slashless]
  · rwa [lastComponent_append_slash front slashless, String.toList_ofList]

theorem startsAtRoot_parent (path : String) :
    startsAtRoot [parent path, lastComponent path] = isRooted path.toList := by
  rw [← isRooted_join, join_parent_lastComponent, isRooted_clean]

/-- At the root, the directory of a path is left with its names, and the last component leads on
from there. -/
theorem walk_components_parent {path : String} (rooted : isRooted path.toList = true) :
    walk true [] (components path.toList) =
      descend true (walk true [] (components (parent path).toList)) (lastComponent path).toList := by
  have parts := components_of_slashless (slashless_lastComponent path)
  calc
    walk true [] (components path.toList)
      = walk true [] (components (clean path).toList) := by
        rw [walk_components_clean rooted, List.append_nil]
    _ = walk true [] (elementParts [parent path, lastComponent path]) := by
        rw [← join_parent_lastComponent, walk_components_join fun _ => ⟨rfl, rfl⟩]
    _ = descend true (walk true [] (components (parent path).toList))
        (lastComponent path).toList := by
        simp [parts]

/-- The root is the only directory that starts at the root and has no names. -/
theorem parent_eq_root_iff {path : String} (rooted : isRooted path.toList = true) :
    parent path = "/" ↔ walk true [] (components (parent path).toList) = [] := by
  constructor
  · intro root
    rw [root]
    decide
  · intro nothing
    rw [← clean_parent, clean_eq_written, isRooted_parent, rooted, nothing]
    rfl

/-- Below other directories, a path stands in its own directory. The one exception is a path that
climbs where it is at the root already: below other directories it has something to climb out of. -/
theorem join_below_parent_iff {before : List String} {top : List Char} {stack : List (List Char)}
    (reached : joinStack before = top :: stack) (named : isName top = true) (path : String) :
    join (before ++ [parent path, lastComponent path]) = join (before ++ [clean path]) ↔
      ¬ (parent path = "/" ∧ lastComponent path = "..") := by
  cases rooted : isRooted path.toList with
  | false =>
      have regrouped := join_regroup before [parent path, lastComponent path] [] fun start => by
        rw [startsAtRoot_parent, rooted] at start
        cases start
      rw [join_parent_lastComponent, List.append_nil] at regrouped
      have notRoot : parent path ≠ "/" := by
        intro root
        have start := isRooted_parent path
        rw [root, rooted] at start
        cases start
      simp [regrouped, notRoot]
  | true =>
      have names : ∀ name ∈ walk true [] (components (parent path).toList), isName name = true :=
        isName_of_mem_walk_root fun _ member => slashless_of_mem_components member
      have parts := components_of_slashless (slashless_lastComponent path)
      have below := walk_components_clean ((isRooted_parent path).trans rooted)
        (startsAtRoot before) (top :: stack)
      have climbs : lastComponent path = ".." ↔ (lastComponent path).toList = up := by
        rw [← String.toList_inj]
        rfl
      obtain ⟨element, member, nonempty⟩ := exists_ne_empty_of_joinStack reached
      rw [clean_parent] at below
      rw [join_eq_iff ⟨element, List.mem_append_left _ member, nonempty⟩
          ⟨element, List.mem_append_left _ member, nonempty⟩,
        startsAtRoot_append_of_joinStack reached, startsAtRoot_append_of_joinStack reached,
        joinStack_append_of_joinStack reached, joinStack_append_of_joinStack reached,
        parent_eq_root_iff rooted, climbs,
        ← descend_append_iff names named (startsAtRoot before) stack (lastComponent path).toList]
      simp [below, parts, walk_components_clean rooted, walk_components_parent rooted]

/-- A path is recomposed from its directory, which is clean and starts where the path starts, and what
stands behind its last slash. So the directory from which the Go code for the messages of a file is
imported holds the last component of the file, and with it the file itself as its clean path names
it; only a path that climbs where it is at the root already, such as `/..`, names no place below the
base. -/
theorem parent_recomposes (path : String) :
    join [parent path, lastComponent path] = clean path ∧
      clean (parent path) = parent path ∧
      isRooted (parent path).toList = isRooted path.toList ∧
      ∀ base genDir : String,
        join [Naming.protoImportPath base genDir path, lastComponent path] =
            join [base, genDir, "proto", parent path, lastComponent path] ∧
          (join [Naming.protoImportPath base genDir path, lastComponent path] =
              join [base, genDir, "proto", clean path] ↔
            ¬ (parent path = "/" ∧ lastComponent path = "..")) := by
  refine ⟨join_parent_lastComponent path, clean_parent path, isRooted_parent path, ?_⟩
  intro base genDir
  have name : isName "proto".toList = true := by decide
  obtain ⟨stack, reached⟩ : ∃ stack, joinStack [base, genDir, "proto"] = "proto".toList :: stack := by
    have parts : components "proto".toList = ["proto".toList] := by decide
    rw [joinStack, elementParts_cons, elementParts_cons, elementParts_cons, elementParts_nil,
      List.append_nil, parts, walk_append, walk_append, walk_cons, walk_nil, descend_of_isName name]
    exact ⟨_, rfl⟩
  have regrouped : join [Naming.protoImportPath base genDir path, lastComponent path] =
      join [base, genDir, "proto", parent path, lastComponent path] := join_join _ _
  refine ⟨regrouped, ?_⟩
  rw [regrouped]
  exact join_below_parent_iff reached name path

/-- What is joined to the directory may be empty or climb, and cancel all of it. -/
example : parent "a/..//./" = "." ∧ parent "a//../.." = "." ∧ lastComponent "a//../.." = ".." ∧
    join [".", ".."] = clean "a//../.." ∧ parent "/../users.proto" = "/" := by
  decide

end MethodForge.Path
