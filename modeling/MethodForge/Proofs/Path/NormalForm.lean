/-
Module: MethodForge.Proofs.Path.NormalForm
Purpose: What a path means, and the one path among all with this meaning that `clean` gives. A path
  leads some levels up from where it starts and then down through names; the stack of a walk is such
  a place, with the names above the levels. Two paths have the same clean form exactly when both
  start at the root or both do not, and they lead to the same place. What is clean is normal, and
  what is normal is clean already.
Main exports: Place, Place.follow, Place.follow_replicate_up, Place.walk_stack, meaning, clean_eq_iff,
  IsNormal, isNormal_clean, clean_of_isNormal, clean_unique_normal_form
-/
import MethodForge.Proofs.Path.Join

namespace MethodForge.Path

/-! ### Places -/

/-- Where a path leads: some levels up from where it starts, and from there down through names. The
name that was entered last comes first. -/
structure Place where
  climbs : Nat := 0
  names : List (List Char) := []
deriving Repr, DecidableEq

namespace Place

/-- One level up. This undoes the last name. When there is none, it leads above the start of a
relative path, and nowhere from the root. -/
def climb (rooted : Bool) : Place → Place
  | ⟨climbs, _ :: names⟩ => ⟨climbs, names⟩
  | ⟨climbs, []⟩ => ⟨if rooted then climbs else climbs + 1, []⟩

/-- One component further. -/
def next (rooted : Bool) (place : Place) : List Char → Place
  | [] => place
  | ['.'] => place
  | ['.', '.'] => place.climb rooted
  | name => { place with names := name :: place.names }

/-- Reads components from left to right. -/
def follow (rooted : Bool) (place : Place) (parts : List (List Char)) : Place :=
  parts.foldl (next rooted) place

@[simp] theorem follow_nil (rooted : Bool) (place : Place) : place.follow rooted [] = place := rfl

@[simp] theorem follow_cons (rooted : Bool) (place : Place) (part : List Char)
    (parts : List (List Char)) :
    place.follow rooted (part :: parts) = (place.next rooted part).follow rooted parts := rfl

@[simp] theorem follow_append (rooted : Bool) (place : Place) (first second : List (List Char)) :
    place.follow rooted (first ++ second) = (place.follow rooted first).follow rooted second :=
  List.foldl_append

theorem next_of_isIdle {part : List Char} (idle : isIdle part = true) (rooted : Bool)
    (place : Place) : place.next rooted part = place := by
  have empty : part = [] ∨ part = ['.'] := by simpa [isIdle] using idle
  rcases empty with rfl | rfl
  · rfl
  · rfl

theorem next_up (rooted : Bool) (place : Place) : place.next rooted up = place.climb rooted := rfl

theorem next_of_isName {part : List Char} (name : isName part = true) (rooted : Bool)
    (place : Place) : place.next rooted part = { place with names := part :: place.names } := by
  unfold next
  split
  · cases name
  · cases name
  · cases name
  · rfl

/-- Names are entered one after the other. -/
theorem follow_names {names : List (List Char)} (all : ∀ name ∈ names, isName name = true)
    (rooted : Bool) (place : Place) :
    place.follow rooted names = { place with names := names.reverse ++ place.names } := by
  induction names generalizing place with
  | nil => rfl
  | cons name names ih =>
      have later := ih fun other member => all other (List.mem_cons_of_mem _ member)
      rw [follow_cons, next_of_isName (all name List.mem_cons_self), later, List.reverse_cons,
        List.append_assoc, List.singleton_append]

/-- Climbing undoes the names that were entered last, and with none left a relative path climbs
further. -/
theorem follow_replicate_up (rooted : Bool) (place : Place) (times : Nat) :
    place.follow rooted (List.replicate times up) =
      ⟨if rooted then place.climbs else place.climbs + (times - place.names.length),
        place.names.drop times⟩ := by
  induction times generalizing place with
  | zero => simp
  | succ times ih =>
      rw [List.replicate_succ, follow_cons, next_up, ih]
      obtain ⟨climbs, names⟩ := place
      cases names with
      | nil =>
          cases rooted with
          | true => simp [climb]
          | false =>
              have count : climbs + 1 + times = climbs + (times + 1) := by omega
              simp [climb, count]
      | cons top below => simp [climb]

/-! ### Places as stacks -/

/-- What a walk to a place has on its stack. -/
def stack (place : Place) : List (List Char) :=
  place.names ++ List.replicate place.climbs up

/-- Whether a path can lead to a place. -/
structure Reachable (rooted : Bool) (place : Place) : Prop where
  names : ∀ name ∈ place.names, isName name = true
  climbs : rooted = true → place.climbs = 0

theorem reachable_start (rooted : Bool) : Reachable rooted {} := by
  constructor
  · intro name member
    cases member
  · intro _
    rfl

theorem Reachable.next {rooted : Bool} {place : Place} (reachable : Reachable rooted place)
    (part : List Char) : Reachable rooted (place.next rooted part) := by
  rcases component_cases part with idle | rfl | name
  · rw [next_of_isIdle idle]
    exact reachable
  · obtain ⟨climbs, names⟩ := place
    cases names with
    | nil =>
        constructor
        · intro name member
          cases member
        · rintro rfl
          exact reachable.climbs rfl
    | cons top below =>
        constructor
        · intro name member
          exact reachable.names name (List.mem_cons_of_mem _ member)
        · exact reachable.climbs
  · rw [next_of_isName name]
    constructor
    · intro other member
      rcases List.mem_cons.1 member with rfl | inPlace
      · exact name
      · exact reachable.names other inPlace
    · exact reachable.climbs

theorem Reachable.follow {rooted : Bool} {place : Place} (reachable : Reachable rooted place)
    (parts : List (List Char)) : Reachable rooted (place.follow rooted parts) := by
  induction parts generalizing place with
  | nil => exact reachable
  | cons part parts ih => exact ih (reachable.next part)

/-- One step of a walk leads one component further. -/
theorem descend_stack {rooted : Bool} {place : Place} (reachable : Reachable rooted place)
    (part : List Char) : descend rooted place.stack part = (place.next rooted part).stack := by
  rcases component_cases part with idle | rfl | name
  · rw [descend_of_isIdle idle, next_of_isIdle idle]
  · obtain ⟨climbs, names⟩ := place
    cases names with
    | cons top below =>
        have entered : top ≠ up := ne_up_of_isName (reachable.names top List.mem_cons_self)
        exact descend_up_cons entered rooted (below ++ List.replicate climbs up)
    | nil =>
        -- With no name left, the stack is a run of climbs, and at the root it is empty.
        cases rooted with
        | true =>
            obtain rfl : climbs = 0 := reachable.climbs rfl
            exact descend_up_nil true
        | false =>
            cases climbs with
            | zero => exact descend_up_nil false
            | succ climbs => exact descend_relative_up_cons_up (List.replicate climbs up)
  · rw [descend_of_isName name, next_of_isName name]
    rfl

/-- A walk leads where its components lead. -/
theorem walk_stack {rooted : Bool} {place : Place} (reachable : Reachable rooted place)
    (parts : List (List Char)) : walk rooted place.stack parts = (place.follow rooted parts).stack := by
  induction parts generalizing place with
  | nil => rfl
  | cons part parts ih =>
      rw [walk_cons, descend_stack reachable, ih (reachable.next part), follow_cons]

theorem filter_isName_stack {rooted : Bool} {place : Place} (reachable : Reachable rooted place) :
    place.stack.filter isName = place.names := by
  have all : place.names.filter isName = place.names := List.filter_eq_self.2 reachable.names
  have none : (List.replicate place.climbs up).filter isName = [] := by
    apply List.filter_eq_nil_iff.2
    intro part member
    rw [List.eq_of_mem_replicate member]
    exact Bool.false_ne_true
  rw [stack, List.filter_append, all, none, List.append_nil]

/-- Different places have different stacks. -/
theorem stack_injective {rooted : Bool} {first second : Place} (one : Reachable rooted first)
    (other : Reachable rooted second) (same : first.stack = second.stack) : first = second := by
  have names : first.names = second.names := by
    rw [← filter_isName_stack one, same, filter_isName_stack other]
  have climbs : first.climbs = second.climbs := by
    have length := congrArg List.length same
    rw [stack, stack, names] at length
    simpa using length
  obtain ⟨_, _⟩ := first
  obtain ⟨_, _⟩ := second
  cases names
  cases climbs
  rfl

end Place

/-! ### Meanings -/

/-- The place to which a path leads. -/
def meaning (path : String) : Place :=
  Place.follow (isRooted path.toList) {} (components path.toList)

theorem reachable_meaning (path : String) : (meaning path).Reachable (isRooted path.toList) :=
  (Place.reachable_start _).follow _

theorem stack_meaning (path : String) :
    (meaning path).stack = walk (isRooted path.toList) [] (components path.toList) :=
  (Place.walk_stack (Place.reachable_start _) _).symm

theorem settled_meaning (path : String) : Settled (isRooted path.toList) (meaning path).stack := by
  rw [stack_meaning]
  exact (Settled.nil _).walk fun _ member => slashless_of_mem_components member

/-- A path is cleaned by writing out where it leads. -/
theorem clean_eq_written_meaning (path : String) :
    clean path = String.ofList (written (isRooted path.toList) (meaning path).stack) := by
  rw [clean_eq_written, stack_meaning]

theorem isRooted_clean (path : String) :
    isRooted (clean path).toList = isRooted path.toList := by
  rw [clean_eq_written_meaning, String.toList_ofList, isRooted_written (settled_meaning path)]

/-- Different stacks are written differently. -/
theorem written_injective {rooted start : Bool} {stack left : List (List Char)}
    (one : Settled rooted stack) (other : Settled start left)
    (same : written rooted stack = written start left) : rooted = start ∧ stack = left := by
  have begins : rooted = start := by
    rw [← isRooted_written one, same, isRooted_written other]
  have parts : stack.reverse = left.reverse := by
    rw [← filter_components_written one, same, filter_components_written other]
  exact ⟨begins, List.reverse_inj.1 parts⟩

/-- Paths have the same clean form when they start alike and lead to the same place. -/
theorem clean_eq_iff (first second : String) :
    clean first = clean second ↔
      meaning first = meaning second ∧ isRooted first.toList = isRooted second.toList := by
  rw [clean_eq_written_meaning, clean_eq_written_meaning]
  constructor
  · intro same
    obtain ⟨start, stack⟩ := written_injective (settled_meaning first) (settled_meaning second)
      (String.ofList_injective same)
    refine ⟨?_, start⟩
    apply Place.stack_injective (reachable_meaning first) _ stack
    rw [start]
    exact reachable_meaning second
  · rintro ⟨place, start⟩
    rw [place, start]

/-! ### Normal paths -/

/-- The components of a path. The root, which is an empty one, does not count. -/
def steps (path : String) : List (List Char) :=
  components (if isRooted path.toList then path.toList.tail else path.toList)

/-- Whether a path is as short as it can be. -/
structure IsNormal (path : String) : Prop where
  nonempty : path ≠ ""
  moving : path ≠ "." → path ≠ "/" → [] ∉ steps path ∧ ['.'] ∉ steps path
  unended : path ≠ "/" → path.toList.getLast? ≠ some '/'
  climbsFirst : ∃ climbs names, steps path = List.replicate climbs up ++ names ∧ up ∉ names ∧
    (isRooted path.toList = true → climbs = 0)

/-- A slash at the end of a path has an empty component behind it. -/
theorem nil_mem_steps_of_ends {path : String} (long : path ≠ "/")
    (ends : path.toList.getLast? = some '/') : [] ∈ steps path := by
  obtain ⟨front, characters⟩ := List.getLast?_eq_some_iff.1 ends
  have behind (text : List Char) : [] ∈ components (text ++ ['/']) := by
    rw [components_append_slash]
    exact List.mem_append_right _ List.mem_cons_self
  rw [steps, characters]
  split
  · cases front with
    | nil =>
        refine absurd ?_ long
        rw [← String.toList_inj, characters]
        rfl
    | cons first rest => exact behind rest
  · exact behind front

/-- The components of a written stack are its parts from the bottom. -/
theorem steps_written {rooted : Bool} {stack : List (List Char)} (settled : Settled rooted stack)
    (nonempty : stack ≠ []) : steps (String.ofList (written rooted stack)) = stack.reverse := by
  have parts : components (ofComponents stack.reverse) = stack.reverse :=
    components_ofComponents_of_slashless (List.reverse_ne_nil_iff.2 nonempty)
      fun part member => (settled part (List.mem_reverse.1 member)).2.1
  rw [steps, String.toList_ofList, isRooted_written settled]
  cases rooted with
  | true => exact parts
  | false => simpa [written, nonempty] using parts

theorem isNormal_dot : IsNormal "." := by
  refine ⟨by decide, by simp, by decide, 0, [['.']], ?_⟩
  decide

theorem isNormal_root : IsNormal "/" := by
  refine ⟨by decide, by simp, by simp, 0, [[]], ?_⟩
  decide

/-- What `clean` gives is normal. -/
theorem isNormal_clean (path : String) : IsNormal (clean path) := by
  have settled := settled_meaning path
  have reachable := reachable_meaning path
  have text := clean_eq_written_meaning path
  by_cases arrived : (meaning path).stack = []
  · -- The path leads back to its start, which has a name of its own.
    rw [text, arrived]
    cases isRooted path.toList with
    | true => exact isNormal_root
    | false => exact isNormal_dot
  · have parts : steps (clean path) = (meaning path).stack.reverse := by
      rw [text, steps_written settled arrived]
    have moving (part : List Char) (idle : isIdle part = true) : part ∉ steps (clean path) := by
      rw [parts, List.mem_reverse]
      intro member
      rw [(settled part member).1] at idle
      cases idle
    constructor
    · rw [text, ne_eq, String.ofList_eq_empty_iff]
      exact written_ne_nil settled
    · intro _ _
      exact ⟨moving [] rfl, moving ['.'] rfl⟩
    · intro long ends
      exact moving [] rfl (nil_mem_steps_of_ends long ends)
    · refine ⟨(meaning path).climbs, (meaning path).names.reverse, ?_, ?_, ?_⟩
      · rw [parts, Place.stack, List.reverse_append, List.reverse_replicate]
      · rw [List.mem_reverse]
        intro member
        exact ne_up_of_isName (reachable.names _ member) rfl
      · rw [isRooted_clean]
        exact reachable.climbs

/-- A path with its steps and its root, if it has one. -/
theorem toList_eq_ofComponents_steps (path : String) :
    path.toList =
      if isRooted path.toList then '/' :: ofComponents (steps path)
      else ofComponents (steps path) := by
  have whole (text : List Char) : ofComponents (components text) = text :=
    List.intercalate_splitOn '/'
  rw [steps, whole]
  cases rooted : isRooted path.toList with
  | false => simp
  | true =>
      cases characters : path.toList with
      | nil =>
          rw [characters] at rooted
          cases rooted
      | cons first rest =>
          rw [characters] at rooted
          unfold isRooted at rooted
          split at rooted
          · rename_i same
            cases same
            rfl
          · cases rooted

/-- The root of a path leads nowhere. -/
theorem meaning_eq_follow_steps (path : String) :
    meaning path = Place.follow (isRooted path.toList) {} (steps path) := by
  have spelled := toList_eq_ofComponents_steps path
  rw [meaning]
  cases rooted : isRooted path.toList with
  | false => rw [steps, rooted, if_neg Bool.false_ne_true]
  | true =>
      have parts : components path.toList = [] :: steps path := by
        rw [rooted, if_pos rfl] at spelled
        rw [steps, rooted, if_pos rfl, spelled, components_cons_slash]
        rfl
      rw [parts, Place.follow_cons, Place.next_of_isIdle rfl]

/-- A path whose climbs come first leads as far up and then down through its names. -/
theorem meaning_of_steps {path : String} {climbs : Nat} {names : List (List Char)}
    (parts : steps path = List.replicate climbs up ++ names)
    (named : ∀ name ∈ names, isName name = true)
    (atRoot : isRooted path.toList = true → climbs = 0) :
    meaning path = ⟨climbs, names.reverse⟩ := by
  have climbed : Place.follow (isRooted path.toList) {} (List.replicate climbs up) =
      ⟨climbs, []⟩ := by
    rw [Place.follow_replicate_up]
    cases rooted : isRooted path.toList with
    | true =>
        obtain rfl := atRoot rooted
        rfl
    | false => simp
  rw [meaning_eq_follow_steps, parts, Place.follow_append, climbed, Place.follow_names named,
    List.append_nil]

/-- A stack that holds the steps of a path is written as that path. -/
theorem written_of_steps {path : String} {stack : List (List Char)}
    (same : stack.reverse = steps path) : written (isRooted path.toList) stack = path.toList := by
  have some : ¬ stack.isEmpty = true := by
    rw [List.isEmpty_iff]
    rintro rfl
    exact List.splitOn_ne_nil '/' _ same.symm
  rw [written, same, if_neg some]
  exact (toList_eq_ofComponents_steps path).symm

/-- What is normal is clean. -/
theorem clean_of_isNormal {path : String} (normal : IsNormal path) : clean path = path := by
  by_cases here : path = "."
  · rw [here]
    decide
  by_cases root : path = "/"
  · rw [root]
    decide
  obtain ⟨unblank, undotted⟩ := normal.moving here root
  obtain ⟨climbs, names, parts, below, atRoot⟩ := normal.climbsFirst
  have named : ∀ name ∈ names, isName name = true := by
    intro name member
    have moves : name ∈ steps path := by
      rw [parts]
      exact List.mem_append_right _ member
    have notEmpty : name ≠ [] := fun same => unblank (same ▸ moves)
    have notDot : name ≠ ['.'] := fun same => undotted (same ▸ moves)
    have notUp : name ≠ up := fun same => below (same ▸ member)
    simp [isName, isIdle, notEmpty, notDot, notUp]
  have place := meaning_of_steps parts named atRoot
  have reversed : (meaning path).stack.reverse = steps path := by
    rw [place, parts, Place.stack, List.reverse_append, List.reverse_replicate,
      List.reverse_reverse]
  rw [clean_eq_written_meaning, written_of_steps reversed, String.ofList_toList]

/-- A clean path starts and leads as the path itself does, and among the paths that do it is the only
one that is clean: paths that start alike and lead to the same place have one clean form, which stays
as it is when it is cleaned again. The clean form is normal, and every normal path is its own clean
form. -/
theorem clean_unique_normal_form (path other : String) :
    (meaning (clean path) = meaning path ∧
        isRooted (clean path).toList = isRooted path.toList) ∧
      (clean path = clean other ↔
        meaning path = meaning other ∧ isRooted path.toList = isRooted other.toList) ∧
      clean (clean path) = clean path ∧
      IsNormal (clean path) ∧
      (clean other = other ↔ IsNormal other) := by
  refine ⟨(clean_eq_iff _ _).1 (clean_clean path), clean_eq_iff path other, clean_clean path,
    isNormal_clean path, ?_, clean_of_isNormal⟩
  intro same
  rw [← same]
  exact isNormal_clean other

/-- Climbing cancels names and is cut off at the root, but not at the start of a relative path. -/
example : clean "a/./b/../..//../c/" = "../c" ∧ clean "/a/../../b" = "/b" ∧
    meaning "a/../../c" = ⟨1, ["c".toList]⟩ := by
  decide

end MethodForge.Path
