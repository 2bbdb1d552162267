/-
Module: MethodForge.Proofs.Go.Resolution
Purpose: What resolving types leaves behind. A resolver only adds packages, at the end of its list, so
  a type keeps its alias however many are resolved after it. Each package is stored with its alias;
  that these are the numbers of the packages, that no package is listed twice, and that home is not
  listed, is an invariant of every step. Once the types of all methods of a service are resolved, the
  list holds exactly the packages besides home that one of them is in, so that the alias of a package
  is that of its types and of no others.
Main exports: otherAlias_injective, Resolver.foreign?, Resolver.resolve_cases, Resolver.Sound,
  Resolver.Sound.resolve, Resolver.Extends, Resolver.alias_eq_iff, Resolver.resolve_again,
  signatures_fst, mem_others_signatures, Resolver.Sound.signatures
-/
import MethodForge.Go.EntrypointFile
import MethodForge.Proofs.Text.Decimal
import Mathlib.Data.List.Nodup

namespace MethodForge.Go

open Schema (File Method Request)

/-- In a list whose entries have different keys, each entry is found by its own. -/
theorem find?_of_nodup_keys {α : Type} {key : α → String} {entries : List α}
    (distinct : (entries.map key).Nodup) {entry : α} (member : entry ∈ entries) :
    entries.find? (key · == key entry) = some entry := by
  cases search : entries.find? (key · == key entry) with
  | none => exact absurd (beq_self_eq_true (key entry)) (List.find?_eq_none.1 search entry member)
  | some found =>
      have same := List.find?_some search
      rw [beq_iff_eq] at same
      rw [List.inj_on_of_nodup_map distinct (List.mem_of_find?_eq_some search) member same]

/-! ### Aliases -/

theorem exists_toDigits_cons (number : Nat) :
    ∃ digit rest, Nat.toDigits 10 number = digit :: rest ∧ digit ≠ ' ' := by
  have some : Nat.toDigits 10 number ≠ [] := Nat.toDigits_ne_nil
  obtain ⟨digit, rest, order⟩ := List.exists_cons_of_ne_nil some
  refine ⟨digit, rest, order, ?_⟩
  rintro rfl
  have member : ' ' ∈ Nat.toDigits 10 number := by
    rw [order]
    exact List.mem_cons_self
  exact absurd (Text.isDigit_of_mem_toDigits member) (by decide)

theorem toList_otherAlias (position : Nat) :
    (Resolver.otherAlias position).toList = 'p' :: 'b' :: Nat.toDigits 10 (position + 1) := by
  simp [Resolver.otherAlias, homeAlias]

theorem otherAlias_injective : Function.Injective Resolver.otherAlias := by
  intro first second same
  have digits : Nat.toDigits 10 (first + 1) = Nat.toDigits 10 (second + 1) := by
    simpa [toList_otherAlias] using congrArg String.toList same
  exact Nat.succ.inj (Text.toDigits_injective digits)

theorem homeAlias_ne_otherAlias (position : Nat) : homeAlias ≠ Resolver.otherAlias position := by
  intro same
  have characters := congrArg String.toList same
  rw [toList_otherAlias] at characters
  obtain ⟨digit, rest, digits, -⟩ := exists_toDigits_cons (position + 1)
  rw [digits] at characters
  revert characters
  simp [homeAlias]

theorem dot_not_mem_otherAlias (position : Nat) : '.' ∉ (Resolver.otherAlias position).toList := by
  rw [toList_otherAlias]
  intro member
  simp only [List.mem_cons] at member
  rcases member with same | same | inDigits
  · revert same
    decide
  · revert same
    decide
  · have isDigit := Nat.isDigit_of_mem_toDigits (by decide) (by decide) inDigits
    revert isDigit
    decide

namespace Resolver

/-- The import paths of the packages besides home. -/
def others (resolver : Resolver) : List String :=
  resolver.otherImports.map (·.path)

/-- The package besides home that the type of a message is in. A message that is not known is taken
to be at home. -/
def foreign? (resolver : Resolver) (qualified : String) : Option String :=
  match resolver.find? qualified with
  | none => none
  | some declaration =>
      if declaration.path = resolver.home then none else some declaration.path

theorem foreign?_ne_home {resolver : Resolver} {qualified path : String}
    (foreign : resolver.foreign? qualified = some path) : path ≠ resolver.home := by
  unfold foreign? at foreign
  split at foreign
  · cases foreign
  · split at foreign
    · cases foreign
    · rename_i declaration _ away
      cases foreign
      exact away

/-- All that resolving a type can do: name a type at home, name one of a package that is imported
already, or import a package that was not, under the next number. -/
theorem resolve_cases (resolver : Resolver) (qualified : String) :
    (resolver.foreign? qualified = none ∧
        (resolver.resolve qualified).1.alias = homeAlias ∧
        (resolver.resolve qualified).2 = { resolver with homeUsed := true }) ∨
      ∃ imported : GoImport, resolver.foreign? qualified = some imported.path ∧
        (resolver.resolve qualified).1.alias = imported.alias ∧
        (imported ∈ resolver.otherImports ∧ (resolver.resolve qualified).2 = resolver ∨
          imported.path ∉ resolver.others ∧
            imported.alias = otherAlias resolver.otherImports.length ∧
            (resolver.resolve qualified).2 =
              { resolver with otherImports := resolver.otherImports ++ [imported] }) := by
  unfold resolve foreign?
  cases search : resolver.find? qualified with
  | none => exact Or.inl ⟨rfl, rfl, rfl⟩
  | some declaration =>
      simp only [aliasFor]
      by_cases home : declaration.path = resolver.home
      · simp only [if_pos home]
        exact Or.inl ⟨trivial, trivial, trivial⟩
      · simp only [if_neg home]
        right
        cases listed : resolver.otherImports.find? (·.path == declaration.path) with
        | some known =>
            have same := List.find?_some listed
            rw [beq_iff_eq] at same
            exact ⟨known, by rw [same], rfl, Or.inl ⟨List.mem_of_find?_eq_some listed, rfl⟩⟩
        | none =>
            refine ⟨⟨otherAlias resolver.otherImports.length, declaration.path⟩, rfl, rfl,
              Or.inr ⟨?_, rfl, rfl⟩⟩
            intro member
            obtain ⟨known, inList, same⟩ := List.mem_map.1 member
            exact List.find?_eq_none.1 listed known inList (beq_iff_eq.2 same)

/-! ### What every step keeps -/

/-- Whether the packages besides home are numbered in their order, none of them is listed twice, and
home is not among them. -/
structure Sound (resolver : Resolver) : Prop where
  numbered : ∀ (position : Nat) (imported : GoImport),
    resolver.otherImports[position]? = some imported → imported.alias = otherAlias position
  distinct : resolver.others.Nodup
  foreign : resolver.home ∉ resolver.others

theorem sound_start (request : Request) (home : File) (base genDir : String) :
    (start request home base genDir).Sound := by
  refine ⟨fun position imported there => ?_, List.nodup_nil, List.not_mem_nil⟩
  cases there

/-- Resolving a type keeps the numbers, and gives the next one to a package that is new. -/
theorem Sound.resolve {resolver : Resolver} (sound : resolver.Sound) (qualified : String) :
    (resolver.resolve qualified).2.Sound := by
  rcases resolver.resolve_cases qualified with ⟨-, -, next⟩ | ⟨imported, foreign, -, next⟩
  · rw [next]
    exact ⟨sound.numbered, sound.distinct, sound.foreign⟩
  · rcases next with ⟨-, next⟩ | ⟨fresh, label, next⟩
    · rw [next]
      exact sound
    · rw [next]
      constructor
      · intro position entry there
        rw [List.getElem?_append] at there
        split at there
        · exact sound.numbered position entry there
        · rw [List.getElem?_singleton] at there
          split at there
          · cases there
            rw [label]
            congr 1
            omega
          · cases there
      · rw [others, List.map_append, List.map_singleton]
        refine List.nodup_append.2 ⟨sound.distinct, List.nodup_singleton _, ?_⟩
        intro known member other single same
        rw [List.mem_singleton.1 single] at same
        exact fresh (same ▸ member)
      · rw [others, List.map_append, List.map_singleton, List.mem_append, List.mem_singleton]
        rintro (listed | home)
        · exact sound.foreign listed
        · exact foreign?_ne_home foreign home.symm

section

variable {resolver : Resolver} (sound : resolver.Sound)
include sound

theorem Sound.aliases : resolver.otherImports.map (·.alias) =
    (List.range resolver.otherImports.length).map otherAlias := by
  refine List.ext_getElem (by simp) fun position within _ => ?_
  rw [List.length_map] at within
  rw [List.getElem_map, List.getElem_map, List.getElem_range]
  exact sound.numbered position _ (List.getElem?_eq_getElem within)

theorem Sound.exists_alias_eq {imported : GoImport} (member : imported ∈ resolver.otherImports) :
    ∃ position, imported.alias = otherAlias position := by
  obtain ⟨position, there⟩ := List.mem_iff_getElem?.1 member
  exact ⟨position, sound.numbered position imported there⟩

theorem Sound.nodup_aliases : (resolver.otherImports.map (·.alias)).Nodup := by
  rw [sound.aliases]
  exact List.nodup_range.map otherAlias_injective

/-- A package is imported once. -/
theorem Sound.eq_of_path_eq {first second : GoImport} (one : first ∈ resolver.otherImports)
    (other : second ∈ resolver.otherImports) (same : first.path = second.path) : first = second :=
  List.inj_on_of_nodup_map sound.distinct one other same

/-- An alias stands for one package. -/
theorem Sound.eq_of_alias_eq {first second : GoImport} (one : first ∈ resolver.otherImports)
    (other : second ∈ resolver.otherImports) (same : first.alias = second.alias) : first = second :=
  List.inj_on_of_nodup_map sound.nodup_aliases one other same

end

/-! ### Later resolvers -/

/-- Whether a resolver has come out of another one by resolving more types. -/
structure Extends (later resolver : Resolver) : Prop where
  known : later.known = resolver.known
  home : later.home = resolver.home
  others : resolver.otherImports <+: later.otherImports

theorem Extends.refl (resolver : Resolver) : resolver.Extends resolver :=
  ⟨rfl, rfl, List.prefix_refl _⟩

theorem Extends.trans {last later resolver : Resolver} (second : last.Extends later)
    (first : later.Extends resolver) : last.Extends resolver := by
  constructor
  · exact second.known.trans first.known
  · exact second.home.trans first.home
  · exact first.others.trans second.others

theorem Extends.foreign?_eq {later resolver : Resolver} (extension : later.Extends resolver) :
    later.foreign? = resolver.foreign? := by
  funext qualified
  rw [foreign?, foreign?, find?, find?, extension.known, extension.home]

theorem resolve_extends (resolver : Resolver) (qualified : String) :
    (resolver.resolve qualified).2.Extends resolver := by
  rcases resolver.resolve_cases qualified with ⟨-, -, next⟩ | ⟨imported, -, -, next⟩
  · rw [next]
    exact ⟨rfl, rfl, List.prefix_refl _⟩
  · rcases next with ⟨-, next⟩ | ⟨-, -, next⟩
    · rw [next]
      exact Extends.refl resolver
    · rw [next]
      exact ⟨rfl, rfl, List.prefix_append _ _⟩

/-- Resolving a type imports the package that it is in, if that is not home, and no other one. -/
theorem mem_others_resolve (resolver : Resolver) (qualified path : String) :
    path ∈ (resolver.resolve qualified).2.others ↔
      path ∈ resolver.others ∨ resolver.foreign? qualified = some path := by
  rcases resolver.resolve_cases qualified with ⟨home, -, next⟩ | ⟨imported, foreign, -, next⟩
  · rw [next, home]
    simp [others]
  · rw [foreign, Option.some.injEq]
    rcases next with ⟨there, next⟩ | ⟨-, -, next⟩
    · rw [next]
      constructor
      · exact Or.inl
      · rintro (member | rfl)
        · exact member
        · exact List.mem_map_of_mem there
    · rw [next, others, List.map_append, List.map_singleton, List.mem_append, List.mem_singleton,
        eq_comm (a := path)]
      rfl

/-- A type is named by its message alone, whatever has been resolved before. -/
theorem resolve_name (resolver : Resolver) (qualified : String) :
    (resolver.resolve qualified).1.name =
      match resolver.find? qualified with
      | none => Naming.lastSegment qualified
      | some declaration => declaration.goName := by
  unfold resolve
  cases resolver.find? qualified with
  | none => rfl
  | some declaration => rfl

/-- The alias of a type is that of its package, if that is imported already. -/
theorem resolve_alias_of_mem {resolver : Resolver} {qualified path : String}
    (foreign : resolver.foreign? qualified = some path) (known : path ∈ resolver.others) :
    ∃ imported ∈ resolver.otherImports, imported.path = path ∧
      (resolver.resolve qualified).1.alias = imported.alias := by
  rcases resolver.resolve_cases qualified with ⟨home, -⟩ | ⟨imported, other, label, next⟩
  · rw [home] at foreign
    cases foreign
  · rw [other] at foreign
    cases foreign
    rcases next with ⟨there, -⟩ | ⟨fresh, -⟩
    · exact ⟨imported, there, rfl, label⟩
    · exact absurd known fresh

/-- Once a package is imported, its alias is that of its types and of no others. -/
theorem alias_eq_iff {resolver : Resolver} (sound : resolver.Sound) {qualified : String}
    (known : ∀ path, resolver.foreign? qualified = some path → path ∈ resolver.others)
    {imported : GoImport} (there : imported ∈ resolver.otherImports) :
    (resolver.resolve qualified).1.alias = imported.alias ↔
      resolver.foreign? qualified = some imported.path := by
  constructor
  · intro label
    cases foreign : resolver.foreign? qualified with
    | none =>
        rcases resolver.resolve_cases qualified with ⟨-, home, -⟩ | ⟨_, other, -⟩
        · obtain ⟨position, numbered⟩ := sound.exists_alias_eq there
          rw [home, numbered] at label
          exact absurd label (homeAlias_ne_otherAlias position)
        · rw [foreign] at other
          cases other
    | some other =>
        obtain ⟨found, listed, path, same⟩ := resolve_alias_of_mem foreign (known other foreign)
        rw [same] at label
        rw [← path, sound.eq_of_alias_eq listed there label]
  · intro foreign
    obtain ⟨found, listed, path, same⟩ := resolve_alias_of_mem foreign (known _ foreign)
    rw [same, sound.eq_of_path_eq listed there path]

/-- Types go by aliases without a dot. -/
theorem dot_not_mem_alias {resolver : Resolver} (sound : resolver.Sound) (qualified : String) :
    '.' ∉ (resolver.resolve qualified).1.alias.toList := by
  rcases resolver.resolve_cases qualified with ⟨-, label, -⟩ | ⟨imported, -, label, next⟩
  · rw [label]
    decide
  · rw [label]
    rcases next with ⟨there, -⟩ | ⟨-, numbered, -⟩
    · obtain ⟨position, numbered⟩ := sound.exists_alias_eq there
      rw [numbered]
      exact dot_not_mem_otherAlias position
    · rw [numbered]
      exact dot_not_mem_otherAlias _

/-- The package of a type is imported once the type is resolved, under the alias of the type. -/
theorem exists_mem_otherImports_resolve {resolver : Resolver} {qualified path : String}
    (foreign : resolver.foreign? qualified = some path) :
    GoImport.mk (resolver.resolve qualified).1.alias path ∈
      (resolver.resolve qualified).2.otherImports := by
  rcases resolver.resolve_cases qualified with ⟨home, -⟩ | ⟨imported, other, label, next⟩
  · rw [home] at foreign
    cases foreign
  · rw [other] at foreign
    cases foreign
    rw [label]
    rcases next with ⟨there, next⟩ | ⟨-, -, next⟩
    · rw [next]
      exact there
    · rw [next]
      exact List.mem_append_right _ List.mem_cons_self

/-- A type is resolved alike once more when all others have been resolved. -/
theorem resolve_again {later resolver : Resolver} {qualified : String}
    (extension : later.Extends (resolver.resolve qualified).2) (sound : later.Sound) :
    (later.resolve qualified).1 = (resolver.resolve qualified).1 := by
  have whole := extension.trans (resolver.resolve_extends qualified)
  have name : (later.resolve qualified).1.name = (resolver.resolve qualified).1.name := by
    rw [resolve_name, resolve_name, find?, find?, whole.known]
  have label : (later.resolve qualified).1.alias = (resolver.resolve qualified).1.alias := by
    cases foreign : resolver.foreign? qualified with
    | none =>
        have home {any : Resolver} (atHome : any.foreign? qualified = none) :
            (any.resolve qualified).1.alias = homeAlias := by
          rcases any.resolve_cases qualified with ⟨-, label, -⟩ | ⟨_, other, -⟩
          · exact label
          · rw [atHome] at other
            cases other
        rw [home foreign, home (whole.foreign?_eq ▸ foreign)]
    | some path =>
        have kept := extension.others.subset (exists_mem_otherImports_resolve foreign)
        have known : path ∈ later.others := List.mem_map_of_mem kept
        obtain ⟨found, listed, same, label⟩ :=
          resolve_alias_of_mem (whole.foreign?_eq ▸ foreign) known
        rw [label, sound.eq_of_path_eq listed kept same]
  calc
    (later.resolve qualified).1 =
        ⟨(later.resolve qualified).1.alias, (later.resolve qualified).1.name⟩ := rfl
    _ = (resolver.resolve qualified).1 := by rw [name, label]

/-- A type as code names it. -/
def typeText (resolver : Resolver) (qualified : String) : String :=
  (resolver.resolve qualified).1.text

/-- The signature of a method with the types as they are named in the end. -/
def signatureOf (resolver : Resolver) (service : String) (method : Method) : Signature where
  shape := method.shape
  service := service
  method := method.name
  request := resolver.typeText method.inputType
  response := resolver.typeText method.outputType

end Resolver

/-! ### All methods of a service -/

theorem signature_snd (resolver : Resolver) (service : String) (method : Method) :
    (signature resolver service method).2 =
      ((resolver.resolve method.inputType).2.resolve method.outputType).2 := rfl

theorem signatures_cons_fst (resolver : Resolver) (service : String) (method : Method)
    (rest : List Method) :
    (signatures resolver service (method :: rest)).1 =
      (signature resolver service method).1 ::
        (signatures (signature resolver service method).2 service rest).1 := rfl

theorem signatures_cons_snd (resolver : Resolver) (service : String) (method : Method)
    (rest : List Method) :
    (signatures resolver service (method :: rest)).2 =
      (signatures (signature resolver service method).2 service rest).2 := rfl

theorem signature_extends (resolver : Resolver) (service : String) (method : Method) :
    (signature resolver service method).2.Extends resolver := by
  rw [signature_snd]
  have input := resolver.resolve_extends method.inputType
  have output := (resolver.resolve method.inputType).2.resolve_extends method.outputType
  exact output.trans input

theorem signature_fst {later resolver : Resolver} {service : String} {method : Method}
    (extension : later.Extends (signature resolver service method).2) (sound : later.Sound) :
    (signature resolver service method).1 = later.signatureOf service method := by
  rw [signature_snd] at extension
  have output := (resolver.resolve method.inputType).2.resolve_extends method.outputType
  have request := Resolver.resolve_again (extension.trans output) sound
  have response := Resolver.resolve_again extension sound
  rw [Resolver.signatureOf, Resolver.typeText, Resolver.typeText, request, response]
  rfl

theorem signatures_extends (resolver : Resolver) (service : String) (methods : List Method) :
    (signatures resolver service methods).2.Extends resolver := by
  induction methods generalizing resolver with
  | nil => exact Resolver.Extends.refl resolver
  | cons method rest ih =>
      rw [signatures_cons_snd]
      exact (ih _).trans (signature_extends resolver service method)

/-- Each method of a service has its signature, with the types as they are named in the end. -/
theorem signatures_fst {later resolver : Resolver} {service : String} {methods : List Method}
    (extension : later.Extends (signatures resolver service methods).2) (sound : later.Sound) :
    (signatures resolver service methods).1 = methods.map (later.signatureOf service) := by
  induction methods generalizing resolver with
  | nil => rfl
  | cons method rest ih =>
      rw [signatures_cons_snd] at extension
      have others := signatures_extends (signature resolver service method).2 service rest
      rw [signatures_cons_fst, List.map_cons, ih extension,
        signature_fst (extension.trans others) sound]

/-- The packages of a service: those besides home that the types of its methods are in. -/
theorem mem_others_signatures (resolver : Resolver) (service : String) (methods : List Method)
    (path : String) :
    path ∈ (signatures resolver service methods).2.others ↔
      path ∈ resolver.others ∨ ∃ method ∈ methods,
        ∃ qualified ∈ [method.inputType, method.outputType],
          resolver.foreign? qualified = some path := by
  induction methods generalizing resolver with
  | nil => simp [signatures]
  | cons method rest ih =>
      have same := (signature_extends resolver service method).foreign?_eq
      have first : path ∈ (signature resolver service method).2.others ↔
          path ∈ resolver.others ∨ ∃ qualified ∈ [method.inputType, method.outputType],
            resolver.foreign? qualified = some path := by
        have input := (resolver.resolve_extends method.inputType).foreign?_eq
        rw [signature_snd, Resolver.mem_others_resolve, Resolver.mem_others_resolve, input,
          or_assoc]
        simp
      rw [signatures_cons_snd, ih, first, same, or_assoc]
      simp

theorem Resolver.Sound.signature {resolver : Resolver} (sound : resolver.Sound) (service : String)
    (method : Method) : (Go.signature resolver service method).2.Sound :=
  (sound.resolve method.inputType).resolve method.outputType

/-- Resolving the types of all methods keeps what resolving one keeps. -/
theorem Resolver.Sound.signatures {resolver : Resolver} (sound : resolver.Sound)
    (service : String) (methods : List Method) :
    (Go.signatures resolver service methods).2.Sound := by
  induction methods generalizing resolver with
  | nil => exact sound
  | cons method rest ih => exact ih (sound.signature service method)

end MethodForge.Go
