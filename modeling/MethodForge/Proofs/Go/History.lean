/-
Module: MethodForge.Proofs.Go.History
Purpose: Any number of types resolved one after the other. Each step numbers a package that is new and
  keeps the numbers of the others, so whatever the history, they count the packages in the order of
  their first use; no alias is ever bound twice, and home is imported when a type of it has been
  named. Which alias a type gets depends on what was resolved before it, but not what it stands for:
  written out with the path of its package, a type is the same in every history.
Main exports: Resolver.resolveAll, Resolver.expand?, Resolver.denoted, Resolver.Sound.resolveAll,
  Resolver.nodup_aliases, Resolver.mem_aliases_resolveAll, Resolver.homeAlias_mem_resolveAll,
  Resolver.bound_resolveAll, Resolver.expand?_resolve, resolve_history
-/
import MethodForge.Proofs.Go.Resolution

namespace MethodForge.Go

open Schema (File Request)

namespace Resolver

/-- Resolves types one after the other. -/
def resolveAll (resolver : Resolver) : List String → List GoType × Resolver
  | [] => ([], resolver)
  | qualified :: rest =>
      let later := (resolver.resolve qualified).2.resolveAll rest
      ((resolver.resolve qualified).1 :: later.1, later.2)

/-- A type without its alias: the import path of its package, and its name there. -/
def expand? (resolver : Resolver) (type : GoType) : Option (String × String) :=
  (resolver.imports.find? (·.alias == type.alias)).map fun imported => (imported.path, type.name)

/-- The import path and the name of the Go type of a message. -/
def denoted (resolver : Resolver) (qualified : String) : String × String :=
  match resolver.find? qualified with
  | none => (resolver.home, Naming.lastSegment qualified)
  | some declaration => (declaration.path, declaration.goName)

/-! ### One step -/

/-- No package besides home goes by the alias of home. -/
theorem Sound.alias_ne_homeAlias {resolver : Resolver} (sound : resolver.Sound) {qualified : String}
    {imported : GoImport}
    (step : imported ∈ resolver.otherImports ∧ (resolver.resolve qualified).2 = resolver ∨
      imported.path ∉ resolver.others ∧
        imported.alias = otherAlias resolver.otherImports.length ∧
        (resolver.resolve qualified).2 =
          { resolver with otherImports := resolver.otherImports ++ [imported] }) :
    imported.alias ≠ homeAlias := by
  rcases step with ⟨there, -⟩ | ⟨-, label, -⟩
  · obtain ⟨position, label⟩ := sound.exists_alias_eq there
    rw [label]
    exact (homeAlias_ne_otherAlias position).symm
  · rw [label]
    exact (homeAlias_ne_otherAlias _).symm

/-- Home is used from the first type on that is named through it. -/
theorem homeUsed_resolve {resolver : Resolver} (sound : resolver.Sound) (qualified : String) :
    (resolver.resolve qualified).2.homeUsed = true ↔
      resolver.homeUsed = true ∨ (resolver.resolve qualified).1.alias = homeAlias := by
  rcases resolver.resolve_cases qualified with ⟨-, label, next⟩ | ⟨imported, -, label, next⟩
  · rw [next, label]
    exact ⟨fun _ => Or.inr rfl, fun _ => rfl⟩
  · have away : (resolver.resolve qualified).1.alias ≠ homeAlias := by
      rw [label]
      exact sound.alias_ne_homeAlias next
    have same : (resolver.resolve qualified).2.homeUsed = resolver.homeUsed := by
      rcases next with ⟨-, next⟩ | ⟨-, -, next⟩ <;> rw [next]
    rw [same]
    exact ⟨Or.inl, fun used => used.resolve_right away⟩

/-! ### Many steps -/

/-- What one step keeps, every history keeps. -/
theorem Sound.resolveAll {resolver : Resolver} (sound : resolver.Sound) (history : List String) :
    (resolver.resolveAll history).2.Sound := by
  induction history generalizing resolver with
  | nil => exact sound
  | cons qualified rest ih => exact ih (sound.resolve qualified)

theorem resolveAll_extends (resolver : Resolver) (history : List String) :
    (resolver.resolveAll history).2.Extends resolver := by
  induction history generalizing resolver with
  | nil => exact Extends.refl resolver
  | cons qualified rest ih =>
      have first := resolver.resolve_extends qualified
      have later := ih (resolver.resolve qualified).2
      exact later.trans first

theorem homeUsed_resolveAll {resolver : Resolver} (sound : resolver.Sound) (history : List String) :
    (resolver.resolveAll history).2.homeUsed = true ↔
      resolver.homeUsed = true ∨
        homeAlias ∈ (resolver.resolveAll history).1.map (·.alias) := by
  induction history generalizing resolver with
  | nil => simp [resolveAll]
  | cons qualified rest ih =>
      have later := ih (sound.resolve qualified)
      rw [homeUsed_resolve sound, or_assoc] at later
      rw [resolveAll, List.map_cons, List.mem_cons, eq_comm (a := homeAlias)]
      exact later

/-! ### Imports -/

theorem aliases_imports (resolver : Resolver) :
    resolver.imports.map (·.alias) =
      (if resolver.homeUsed then [homeAlias] else []) ++ resolver.otherImports.map (·.alias) := by
  rw [imports, List.map_append]
  cases resolver.homeUsed <;> rfl

theorem Sound.homeAlias_not_mem {resolver : Resolver} (sound : resolver.Sound) :
    homeAlias ∉ resolver.otherImports.map (·.alias) := by
  intro member
  obtain ⟨imported, inList, same⟩ := List.mem_map.1 member
  obtain ⟨position, label⟩ := sound.exists_alias_eq inList
  exact homeAlias_ne_otherAlias position (same.symm.trans label)

/-- No alias is bound twice. -/
theorem nodup_aliases {resolver : Resolver} (sound : resolver.Sound) :
    (resolver.imports.map (·.alias)).Nodup := by
  rw [aliases_imports]
  cases resolver.homeUsed with
  | false => exact sound.nodup_aliases
  | true => exact List.nodup_cons.2 ⟨sound.homeAlias_not_mem, sound.nodup_aliases⟩

theorem homeAlias_mem_aliases {resolver : Resolver} (sound : resolver.Sound) :
    homeAlias ∈ resolver.imports.map (·.alias) ↔ resolver.homeUsed = true := by
  rw [aliases_imports]
  cases resolver.homeUsed with
  | false => exact iff_of_false sound.homeAlias_not_mem Bool.false_ne_true
  | true => exact iff_of_true List.mem_cons_self rfl

/-- Resolving a type imports its alias, if that was not imported before, and no other one. -/
theorem mem_aliases_resolve (resolver : Resolver) (qualified label : String) :
    label ∈ (resolver.resolve qualified).2.imports.map (·.alias) ↔
      label ∈ resolver.imports.map (·.alias) ∨ label = (resolver.resolve qualified).1.alias := by
  rcases resolver.resolve_cases qualified with ⟨-, named, next⟩ | ⟨imported, -, named, next⟩
  · rw [next, named, aliases_imports, aliases_imports]
    cases resolver.homeUsed with
    | false => simp [or_comm]
    | true =>
        constructor
        · exact Or.inl
        · rintro (before | rfl)
          · exact before
          · exact List.mem_cons_self
  · rcases next with ⟨there, next⟩ | ⟨-, -, next⟩
    · -- The package is imported already, and its alias with it.
      have member : imported.alias ∈ resolver.imports.map (·.alias) := by
        rw [aliases_imports]
        exact List.mem_append_right _ (List.mem_map_of_mem there)
      rw [next, named]
      constructor
      · exact Or.inl
      · rintro (before | rfl)
        · exact before
        · exact member
    · rw [next, named, aliases_imports, aliases_imports, List.map_append, List.map_singleton,
        ← List.append_assoc, List.mem_append, List.mem_singleton]

/-- A resolver imports the aliases of the types that it has named, and no others. -/
theorem mem_aliases_resolveAll (resolver : Resolver) (history : List String) (label : String) :
    label ∈ (resolver.resolveAll history).2.imports.map (·.alias) ↔
      label ∈ resolver.imports.map (·.alias) ∨
        label ∈ (resolver.resolveAll history).1.map (·.alias) := by
  induction history generalizing resolver with
  | nil => simp [resolveAll]
  | cons qualified rest ih =>
      have later := ih (resolver.resolve qualified).2
      rw [mem_aliases_resolve, or_assoc] at later
      rw [resolveAll, List.map_cons, List.mem_cons]
      exact later

/-- What is imported stays imported. -/
theorem mem_imports_of_extends {later resolver : Resolver} (extension : later.Extends resolver)
    (used : resolver.homeUsed = true → later.homeUsed = true) {imported : GoImport}
    (member : imported ∈ resolver.imports) : imported ∈ later.imports := by
  rw [imports, List.mem_append] at member ⊢
  rcases member with home | other
  · left
    cases first : resolver.homeUsed with
    | false =>
        rw [first] at home
        cases home
    | true =>
        rw [first] at home
        rw [used first, extension.home]
        exact home
  · right
    exact extension.others.subset other

theorem mem_imports_resolveAll {resolver : Resolver} (sound : resolver.Sound) {imported : GoImport}
    (member : imported ∈ resolver.imports) (further : List String) :
    imported ∈ (resolver.resolveAll further).2.imports :=
  mem_imports_of_extends (resolver.resolveAll_extends further)
    (fun used => (homeUsed_resolveAll sound further).2 (Or.inl used)) member

/-- An alias that is bound expands to the path that it is bound to. -/
theorem expand?_of_mem {resolver : Resolver} (sound : resolver.Sound) {type : GoType} {path : String}
    (bound : GoImport.mk type.alias path ∈ resolver.imports) :
    resolver.expand? type = some (path, type.name) := by
  have search : resolver.imports.find? (·.alias == type.alias) = some (.mk type.alias path) :=
    find?_of_nodup_keys (nodup_aliases sound) bound
  rw [expand?, search]
  rfl

/-! ### What a type stands for -/

theorem denoted_eq (resolver : Resolver) (qualified : String) :
    resolver.denoted qualified =
      ((resolver.foreign? qualified).getD resolver.home,
        (resolver.resolve qualified).1.name) := by
  rw [resolve_name, denoted, foreign?]
  cases resolver.find? qualified with
  | none => rfl
  | some declaration =>
      by_cases home : declaration.path = resolver.home
      · simp [home]
      · simp [home]

theorem Extends.denoted_eq {later resolver : Resolver} (extension : later.Extends resolver) :
    later.denoted = resolver.denoted := by
  funext qualified
  rw [denoted, denoted, find?, find?, extension.known, extension.home]

/-- Resolving a type binds its alias to the path of its package. -/
theorem bound_resolve (resolver : Resolver) (qualified : String) :
    GoImport.mk (resolver.resolve qualified).1.alias (resolver.denoted qualified).1 ∈
      (resolver.resolve qualified).2.imports := by
  rw [denoted_eq, imports, List.mem_append]
  cases foreign : resolver.foreign? qualified with
  | some path => exact Or.inr (exists_mem_otherImports_resolve foreign)
  | none =>
      left
      rcases resolver.resolve_cases qualified with ⟨-, label, next⟩ | ⟨_, other, -⟩
      · rw [label, next]
        exact List.mem_cons_self
      · rw [foreign] at other
        cases other

/-- The types at home are those named through its alias. -/
theorem alias_resolve_eq_homeAlias {resolver : Resolver} (sound : resolver.Sound)
    (qualified : String) :
    (resolver.resolve qualified).1.alias = homeAlias ↔
      (resolver.denoted qualified).1 = resolver.home := by
  rw [denoted_eq]
  rcases resolver.resolve_cases qualified with ⟨home, label, -⟩ | ⟨imported, foreign, label, next⟩
  · rw [home, label]
    exact ⟨fun _ => rfl, fun _ => rfl⟩
  · rw [foreign, label]
    exact iff_of_false (sound.alias_ne_homeAlias next) (foreign?_ne_home foreign)

/-- Home is named when a type of the history is there. -/
theorem homeAlias_mem_resolveAll {resolver : Resolver} (sound : resolver.Sound)
    (history : List String) :
    homeAlias ∈ (resolver.resolveAll history).1.map (·.alias) ↔
      ∃ qualified ∈ history, (resolver.denoted qualified).1 = resolver.home := by
  induction history generalizing resolver with
  | nil => simp [resolveAll]
  | cons qualified rest ih =>
      have step := resolver.resolve_extends qualified
      have later := ih (sound.resolve qualified)
      rw [step.denoted_eq, step.home] at later
      rw [resolveAll, List.map_cons, List.mem_cons, later, eq_comm,
        alias_resolve_eq_homeAlias sound, List.exists_mem_cons_iff]

/-- In the end, the alias of each type is bound to the path of its package. -/
theorem bound_resolveAll {resolver : Resolver} (sound : resolver.Sound) (history : List String) :
    ∀ entry ∈ history.zip (resolver.resolveAll history).1,
      GoImport.mk entry.2.alias (resolver.denoted entry.1).1 ∈
        (resolver.resolveAll history).2.imports := by
  induction history generalizing resolver with
  | nil =>
      intro entry member
      cases member
  | cons qualified rest ih =>
      have step := resolver.resolve_extends qualified
      have later := ih (sound.resolve qualified)
      rw [step.denoted_eq] at later
      intro entry member
      rw [resolveAll, List.zip_cons_cons, List.mem_cons] at member
      rcases member with rfl | inRest
      · exact mem_imports_resolveAll (sound.resolve qualified) (resolver.bound_resolve qualified) rest
      · exact later entry inRest

/-- A type stands for the same as long as there are imports. -/
theorem expand?_resolve {resolver : Resolver} (sound : resolver.Sound) (qualified : String)
    (further : List String) :
    ((resolver.resolve qualified).2.resolveAll further).2.expand? (resolver.resolve qualified).1 =
      some (resolver.denoted qualified) := by
  have next := sound.resolve qualified
  have bound := mem_imports_resolveAll next (resolver.bound_resolve qualified) further
  rw [expand?_of_mem (next.resolveAll further) bound, denoted_eq]

end Resolver

/-- After every call of every history, the packages besides home are numbered in their order, all
different, and none of them is home; those that were there before are as they were. The alias of the
call is bound once, and home is imported exactly when some call so far has named a type through it.
What the type stands for depends on its message alone, whatever came before or comes after. -/
theorem resolve_history (request : Request) (home : File) (base genDir : String)
    (earlier : List String) (qualified : String) :
    let fresh := Resolver.start request home base genDir
    let before := (fresh.resolveAll earlier).2
    let type := (before.resolve qualified).1
    let after := (before.resolve qualified).2
    after.otherImports.map (·.alias) =
        (List.range after.otherImports.length).map (fun position =>
          "pb" ++ toString (position + 1)) ∧
      (after.otherImports.map (·.path)).Nodup ∧
      fresh.home ∉ after.otherImports.map (·.path) ∧
      before.otherImports <+: after.otherImports ∧
      (after.imports.map (·.alias)).count type.alias = 1 ∧
      ("pb" ∈ after.imports.map (·.alias) ↔
        "pb" ∈ ((fresh.resolveAll earlier).1 ++ [type]).map (·.alias)) ∧
      (∀ further, (after.resolveAll further).2.expand? type = some (fresh.denoted qualified)) ∧
      ∀ others, ((fresh.resolveAll others).2.resolve qualified).2.expand?
        ((fresh.resolveAll others).2.resolve qualified).1 = after.expand? type := by
  intro fresh before type after
  have start := Resolver.sound_start request home base genDir
  have sound : after.Sound := (start.resolveAll earlier).resolve qualified
  have whole : before.Extends fresh := fresh.resolveAll_extends earlier
  have step : after.Extends before := before.resolve_extends qualified
  have stands (history : List String) (further : List String) :
      (((fresh.resolveAll history).2.resolve qualified).2.resolveAll further).2.expand?
          ((fresh.resolveAll history).2.resolve qualified).1 = some (fresh.denoted qualified) := by
    rw [Resolver.expand?_resolve (start.resolveAll history),
      (fresh.resolveAll_extends history).denoted_eq]
  have bound : type.alias ∈ after.imports.map (·.alias) :=
    List.mem_map.2 ⟨_, before.bound_resolve qualified, rfl⟩
  have unused : ¬ fresh.homeUsed = true := Bool.false_ne_true
  refine ⟨sound.aliases, sound.distinct, ?_, step.others, ?_, ?_, stands earlier, fun others => ?_⟩
  · rw [← (step.trans whole).home]
    exact sound.foreign
  · exact List.count_eq_one_of_mem (Resolver.nodup_aliases sound) bound
  · have now := Resolver.homeUsed_resolve (start.resolveAll earlier) qualified
    have soFar := Resolver.homeUsed_resolveAll start earlier
    rw [soFar, or_iff_right unused] at now
    rw [List.map_append, List.map_singleton, List.mem_append, List.mem_singleton, eq_comm (a := "pb")]
    exact (Resolver.homeAlias_mem_aliases sound).trans now
  · exact (stands others []).trans (stands earlier []).symm

end MethodForge.Go
