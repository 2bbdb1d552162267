/-
Module: MethodForge.Proofs.Path.RootInclude
Purpose: The root of the tree, seen from the directory that a run writes to. The escape of a path climbs
  at least as often as the path goes down in the end, however often it climbs in between, so that
  behind its escape no name is left. A run that works at the root and writes into any directory
  below it therefore has the root as its last include directory, and this holds of every run of a
  generation. Out of a directory that never climbs the escape leads back exactly.
Main exports: Place.names_follow_le, depth_join_escape, toRoot_self, clean_join_escape,
  escape_eq_intercalate, depth_eq_of_inward, escape_reaches_root
-/
import MethodForge.Proofs.Path.Escape
import MethodForge.Proofs.Path.NormalForm
import MethodForge.Pipeline

namespace MethodForge.Path

/-! ### Any directory -/

namespace Place

/-- One component further, at most one more name is left, and only behind a name. -/
theorem names_next_le (rooted : Bool) (place : Place) (part : List Char) :
    (place.next rooted part).names.length ≤
      place.names.length + if isName part then 1 else 0 := by
  rcases component_cases part with idle | rfl | name
  · rw [next_of_isIdle idle]
    exact Nat.le_add_right _ _
  · obtain ⟨climbs, names⟩ := place
    cases names with
    | nil => exact Nat.zero_le _
    | cons top below => exact Nat.le_trans (Nat.le_succ _) (Nat.le_add_right _ _)
  · rw [next_of_isName name, if_pos name]
    exact Nat.le_refl _

/-- A path leaves at most as many names as it holds. -/
theorem names_follow_le (rooted : Bool) (place : Place) (parts : List (List Char)) :
    (place.follow rooted parts).names.length ≤
      place.names.length + (parts.filter isName).length := by
  induction parts generalizing place with
  | nil => exact Nat.le_refl _
  | cons part parts ih =>
      calc
        ((place.next rooted part).follow rooted parts).names.length
            ≤ (place.next rooted part).names.length + (parts.filter isName).length := ih _
        _ ≤ place.names.length + (if isName part then 1 else 0) + (parts.filter isName).length :=
          Nat.add_le_add_right (names_next_le rooted place part) _
        _ = place.names.length + ((part :: parts).filter isName).length := by
          rw [List.filter_cons]
          split
          · rw [List.length_cons]
            omega
          · rw [Nat.add_zero]

end Place

theorem length_names_meaning_le (path : String) : (meaning path).names.length ≤ depth path := by
  have bound := Place.names_follow_le (isRooted path.toList) {} (components path.toList)
  rw [List.length_nil, Nat.zero_add] at bound
  exact bound

/-- Behind its escape, a path starts where it starts alone. -/
theorem startsAtRoot_escape (path : String) :
    startsAtRoot [path, escape path] = isRooted path.toList := by
  rw [startsAtRoot, List.flatMap_cons, List.flatMap_singleton, isRooted_append, isRooted_escape]
  split
  · rename_i empty
    rw [empty]
    rfl
  · rfl

/-- What a path and its escape leave. -/
theorem joinStack_escape (path : String) :
    joinStack [path, escape path] =
      ((meaning path).follow (isRooted path.toList) (List.replicate (depth path) up)).stack := by
  rw [joinStack, startsAtRoot_escape, elementParts_cons, elementParts_cons, elementParts_nil,
    List.append_nil, walk_append, walk_components_escape, ← stack_meaning,
    Place.walk_stack (reachable_meaning path)]

/-- A path followed by its escape has no name left. -/
theorem depth_join_escape (path : String) : depth (join [path, escape path]) = 0 := by
  have reachable := (reachable_meaning path).follow (List.replicate (depth path) up)
  have cancelled : ((meaning path).follow (isRooted path.toList)
      (List.replicate (depth path) up)).names = [] := by
    rw [Place.follow_replicate_up]
    exact List.drop_eq_nil_of_le (length_names_meaning_le path)
  rw [depth_join, joinStack_escape, Place.filter_isName_stack reachable, cancelled]
  rfl

/-- A run that writes into the directory that it is seen from has the root right there. -/
theorem toRoot_self (path : String) : toRoot path path = "." := by
  have nothing : escape (join [path, escape path]) = "" := by
    rw [escape_eq, depth_join_escape]
    rfl
  rw [toRoot_eq, includeRoot, nothing]
  rfl

/-! ### Directories that never climb -/

theorem escape_eq_intercalate (path : String) :
    escape path = "/".intercalate (List.replicate (depth path) "..") := by
  rw [escape_eq, ← String.toList_inj, String.toList_ofList, String.toList_intercalate,
    List.map_replicate]
  rfl

/-- Out of a directory that never climbs, its escape leads back. -/
theorem clean_join_escape {path : String} (inward : Inward path) :
    clean (join [path, escape path]) = "." := by
  have relative : isRooted ['.'] = false := rfl
  have start : startsAtRoot [path, escape path, "."] = false :=
    startsAtRoot_eq_false (by simp [inward.1, isRooted_escape, relative])
  have stack : joinStack [path, escape path, "."] = [] := by
    rw [joinStack, elementParts_cons, elementParts_cons, elementParts_cons, elementParts_nil,
      List.append_nil, walk_append, walk_append, walk_components_escape_self inward.2,
      walk_components_of_isIdle rfl]
  calc
    clean (join [path, escape path]) = join [join [path, escape path], "."] := (join_dot _).symm
    _ = join [path, escape path, "."] := join_join [path, escape path] ["."]
    _ = "." := by
      rw [join_eq, if_neg (by simp), start, stack]
      rfl

/-- A directory that never climbs is as deep as its clean form has components. -/
theorem depth_eq_of_inward {path : String} (inward : Inward path) :
    depth path = if clean path = "." then 0 else (components (clean path).toList).length := by
  have stack : (meaning path).stack = ((components path.toList).filter isName).reverse := by
    rw [stack_meaning, walk_of_not_mem_up inward.2, List.append_nil]
  have text : clean path = String.ofList (written false (meaning path).stack) := by
    rw [clean_eq_written_meaning, inward.1]
  have settled : Settled false (meaning path).stack := by
    rw [← inward.1]
    exact settled_meaning path
  by_cases arrived : (meaning path).stack = []
  · have here : clean path = "." := by
      rw [text, arrived]
      rfl
    rw [if_pos here, depth, ← List.length_reverse, ← stack, arrived]
    rfl
  · have parts : steps (clean path) = (meaning path).stack.reverse := by
      rw [text, steps_written settled arrived]
    have moved : clean path ≠ "." := by
      intro here
      have dot : steps "." = [['.']] := by decide
      rw [here, dot, stack, List.reverse_reverse] at parts
      have name : ['.'] ∈ (components path.toList).filter isName := by
        rw [← parts]
        exact List.mem_cons_self
      exact absurd (List.mem_filter.1 name).2 (by decide)
    have relative : isRooted (clean path).toList = false := (isRooted_clean path).trans inward.1
    rw [steps, relative, if_neg Bool.false_ne_true, stack, List.reverse_reverse] at parts
    rw [if_neg moved, parts, depth]

end MethodForge.Path

namespace MethodForge

open Path

/-- A relative path without `..` is undone by its escape, which climbs once for each component of the
clean path. Whatever the path is, a run that writes to it has the root of the tree where it works,
and so each of the five runs of a generation names `.` as its third include directory. -/
theorem escape_reaches_root (path : String) (layout : Parameters) (toolchain : Toolchain)
    (protos : List String) :
    (Inward path →
      clean (join [path, escape path]) = "." ∧
        escape path = "/".intercalate (List.replicate
          (if clean path = "." then 0 else (components (clean path).toList).length) "..")) ∧
      toRoot path path = "." ∧
      (standardInvocations layout).length = 5 ∧
      ∀ invocation ∈ standardInvocations layout,
        (invocation.command toolchain protos).arguments.take 3 =
          ["-I" ++ toolchain.protocInclude, "-I" ++ toolchain.optionsInclude, "-I."] := by
  refine ⟨fun inward => ⟨clean_join_escape inward, ?_⟩, toRoot_self path, rfl, ?_⟩
  · rw [← depth_eq_of_inward inward]
    exact escape_eq_intercalate path
  · intro invocation _
    have root : toRoot invocation.outDirectory invocation.parameters.nestedDirectory = "." :=
      toRoot_self invocation.outDirectory
    have start (plugin : String) :
        toolchain.commonArguments invocation.outDirectory invocation.parameters plugin =
          ["-I" ++ toolchain.protocInclude, "-I" ++ toolchain.optionsInclude, "-I.",
            "--plugin=protoc-gen-" ++ invocation.parameters.name ++ "=" ++ plugin] := by
      rw [Toolchain.commonArguments, root]
      rfl
    rw [Invocation.command]
    cases invocation.plugin with
    | go =>
        rw [Toolchain.goCommand, start]
        rfl
    | forge =>
        rw [Toolchain.forgeCommand, start]
        rfl

/-- An unclean directory that never climbs, seen from a layout that leads out of the tree. -/
theorem escape_reaches_root_unclean :
    Inward "./gen//entrypoint/" ∧ clean (join ["./gen//entrypoint/", "../.."]) = "." ∧
      ∀ invocation ∈ standardInvocations { genDir := "a/../..", methodsDir := "/b" },
        (invocation.command default ["users.proto"]).arguments[2]? = some "-I." := by
  have inward : Inward "./gen//entrypoint/" := by decide
  obtain ⟨back, -, -, runs⟩ := escape_reaches_root "./gen//entrypoint/"
    { genDir := "a/../..", methodsDir := "/b" } default ["users.proto"]
  have escaped : escape "./gen//entrypoint/" = "../.." := by decide
  have returns := (back inward).1
  rw [escaped] at returns
  refine ⟨inward, returns, fun invocation member => ?_⟩
  have third := congrArg (fun arguments => arguments[2]?) (runs invocation member)
  rw [List.getElem?_take_of_lt (by decide)] at third
  exact third

end MethodForge
