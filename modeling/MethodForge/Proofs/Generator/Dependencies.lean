/-
Module: MethodForge.Proofs.Generator.Dependencies
Purpose: What generators see of the files that nothing is generated for. They plan, find and route
  the methods of the generated files only, whatever the other files declare under the same names.
  Only code names types, and of the other files it sees those that say which Go package they are in.
  So files may be deleted from a request that no generator looks at, and more of them may be where no
  code is written.
Main exports: Deletes, targets_withFiles, declarations_withFiles, generate_withFiles_of_pathless,
  generate_withFiles_of_codeless, dependencies_do_not_leak
-/
import MethodForge.Proofs.Generator.Builtin

namespace MethodForge

open Go (EntrypointFile Resolver ScaffoldFile)
open Schema (File Request Target)

/-! ### Deleted entries -/

section

variable {α : Type}

/-- Whether a list is what is left of another one when some entries are deleted, each of which may
go. -/
inductive Deletes (mayGo : α → Prop) : List α → List α → Prop where
  | nil : Deletes mayGo [] []
  | keep {entry : α} {entries kept : List α} (rest : Deletes mayGo entries kept) :
      Deletes mayGo (entry :: entries) (entry :: kept)
  | drop {entry : α} {entries kept : List α} (unused : mayGo entry)
      (rest : Deletes mayGo entries kept) : Deletes mayGo (entry :: entries) kept

namespace Deletes

variable {mayGo : α → Prop} {entries kept : List α}

theorem mono {mayGoToo : α → Prop} (more : ∀ entry, mayGo entry → mayGoToo entry)
    (deletes : Deletes mayGo entries kept) : Deletes mayGoToo entries kept := by
  induction deletes with
  | nil => exact .nil
  | keep _ ih => exact .keep ih
  | drop unused _ ih => exact .drop (more _ unused) ih

/-- A choice that takes no deleted entry takes the same from what is left. -/
theorem filter_eq (deletes : Deletes mayGo entries kept) {choice : α → Bool}
    (passedOver : ∀ entry, mayGo entry → choice entry = false) :
    kept.filter choice = entries.filter choice := by
  induction deletes with
  | nil => rfl
  | @keep entry _ _ _ ih => rw [List.filter_cons, List.filter_cons, ih]
  | drop unused _ ih => rw [ih, List.filter_cons_of_neg (by simp [passedOver _ unused])]

/-- What deleted entries add nothing to is made of those that are left. -/
theorem flatMap_eq {β : Type} (deletes : Deletes mayGo entries kept) {parts : α → List β}
    (nothing : ∀ entry, mayGo entry → parts entry = []) :
    kept.flatMap parts = entries.flatMap parts := by
  induction deletes with
  | nil => rfl
  | keep _ ih => rw [List.flatMap_cons, List.flatMap_cons, ih]
  | drop unused _ ih => rw [ih, List.flatMap_cons, nothing _ unused, List.nil_append]

end Deletes

end

/-! ### Requests with fewer files -/

namespace Schema

/-- The request with other parsed files. The files to generate for are the same names. -/
def Request.withFiles (request : Request) (files : List File) : Request :=
  { request with files }

/-- A file that nothing is generated for. -/
def Request.IsDependency (request : Request) (file : File) : Prop :=
  request.isGenerated file = false

/-- A file that nothing is generated for and that does not say which Go package it is in. -/
def Request.IsPathless (request : Request) (file : File) : Prop :=
  request.IsDependency file ∧ file.goImportPath? = none

variable {request : Request} {kept : List File}

/-- A request keeps its targets when dependencies are deleted. -/
theorem targets_withFiles (deletes : Deletes request.IsDependency request.files kept) :
    (request.withFiles kept).targets = request.targets := by
  have generated : (request.withFiles kept).generatedFiles = request.generatedFiles :=
    deletes.filter_eq fun _ dependency => dependency
  rw [Request.targets, Request.targets, generated]

end Schema

namespace Go

variable {request : Request} {kept : List File}

/-- The types of a request are the same without dependencies that have no package. -/
theorem declarations_withFiles (deletes : Deletes request.IsPathless request.files kept)
    (base genDir : String) :
    declarations (request.withFiles kept) base genDir = declarations request base genDir := by
  refine deletes.flatMap_eq fun file ⟨dependency, noPath⟩ => ?_
  have packageless : packagePath? (request.withFiles kept) base genDir file = none := by
    have outside : (request.withFiles kept).isGenerated file = false := dependency
    rw [packagePath?, outside, if_neg Bool.false_ne_true, noPath]
  rw [fileDeclarations, packageless]

theorem start_withFiles (deletes : Deletes request.IsPathless request.files kept) (home : File)
    (base genDir : String) :
    Resolver.start (request.withFiles kept) home base genDir =
      Resolver.start request home base genDir := by
  rw [Resolver.start, declarations_withFiles deletes, Resolver.start]

end Go

/-! ### Generators -/

section

variable {toolchain : Toolchain} {parameters : Parameters} {request : Request} {kept : List File}

section

variable (same : (request.withFiles kept).targets = request.targets)
include same

theorem target_withFiles (parameters : Parameters) :
    parameters.target (request.withFiles kept) = parameters.target request := by
  simp only [Parameters.target, Request.findTarget?, same]

theorem dispatchToAll_withFiles (name package : String) (fanout : Fanout)
    (createsDirectories : Bool) (toolchain : Toolchain) (parameters : Parameters) :
    dispatchToAll name package fanout createsDirectories toolchain parameters
        (request.withFiles kept) =
      dispatchToAll name package fanout createsDirectories toolchain parameters request := by
  have runs : planAll name parameters (request.withFiles kept) fanout =
      planAll name parameters request fanout := by
    rw [planAll, planAll, same]
  rw [dispatchToAll, runs]
  rfl

theorem methodsGenerator_withFiles :
    (methodsGenerator toolchain).generate parameters (request.withFiles kept) =
      (methodsGenerator toolchain).generate parameters request := by
  simp only [methodsGenerator, target_withFiles same, dispatchToAll_withFiles same]
  rfl

theorem configGenerator_withFiles :
    (configGenerator toolchain).generate parameters (request.withFiles kept) =
      (configGenerator toolchain).generate parameters request := by
  simp only [configGenerator, target_withFiles same, dispatchToAll_withFiles same]

theorem gatewayGenerator_withFiles :
    gatewayGenerator.generate parameters (request.withFiles kept) =
      gatewayGenerator.generate parameters request := by
  have routing : routingOf parameters (request.withFiles kept) = routingOf parameters request := by
    rw [routingOf, Deploy.routes, same, routingOf, Deploy.routes]
  simp only [gatewayGenerator, routing]

theorem entrypointGenerator_withFiles_of_every (every : parameters.mode = .every) :
    (entrypointGenerator toolchain).generate parameters (request.withFiles kept) =
      (entrypointGenerator toolchain).generate parameters request := by
  simp only [entrypointGenerator, every, dispatchToAll_withFiles same]

end

theorem scaffoldGenerator_withFiles (deletes : Deletes request.IsPathless request.files kept) :
    scaffoldGenerator.generate parameters (request.withFiles kept) =
      scaffoldGenerator.generate parameters request := by
  have same := Schema.targets_withFiles (deletes.mono fun _ pathless => pathless.1)
  simp only [scaffoldGenerator, target_withFiles same, ScaffoldFile.ofTarget,
    Go.start_withFiles deletes]

theorem entrypointGenerator_withFiles (deletes : Deletes request.IsPathless request.files kept) :
    (entrypointGenerator toolchain).generate parameters (request.withFiles kept) =
      (entrypointGenerator toolchain).generate parameters request := by
  have same := Schema.targets_withFiles (deletes.mono fun _ pathless => pathless.1)
  simp only [entrypointGenerator, target_withFiles same, dispatchToAll_withFiles same,
    EntrypointFile.ofTarget, Go.start_withFiles deletes]

/-- No generator sees a dependency without a package. -/
theorem generate_withFiles_of_pathless {generator : Generator}
    (builtin : generator ∈ builtinGenerators toolchain)
    (deletes : Deletes request.IsPathless request.files kept) :
    generator.generate parameters (request.withFiles kept) =
      generator.generate parameters request := by
  have same := Schema.targets_withFiles (deletes.mono fun _ pathless => pathless.1)
  simp only [builtinGenerators, List.mem_cons, List.not_mem_nil, or_false] at builtin
  rcases builtin with rfl | rfl | rfl | rfl | rfl
  · exact methodsGenerator_withFiles same
  · exact scaffoldGenerator_withFiles deletes
  · exact entrypointGenerator_withFiles deletes
  · exact configGenerator_withFiles same
  · exact gatewayGenerator_withFiles same

/-- Whether a run of a generator names no types: it leaves directives, a manifest or rules. -/
def IsCodeless (generator : Generator) (parameters : Parameters) : Prop :=
  generator.name ∈ ["methods", "config", "gateway"] ∨
    generator.name = "entrypoint" ∧ parameters.mode = .every

/-- A run that names no types sees no dependency. -/
theorem generate_withFiles_of_codeless {generator : Generator}
    (builtin : generator ∈ builtinGenerators toolchain)
    (codeless : IsCodeless generator parameters)
    (deletes : Deletes request.IsDependency request.files kept) :
    generator.generate parameters (request.withFiles kept) =
      generator.generate parameters request := by
  have same := Schema.targets_withFiles deletes
  simp only [builtinGenerators, List.mem_cons, List.not_mem_nil, or_false] at builtin
  rcases builtin with rfl | rfl | rfl | rfl | rfl
  · exact methodsGenerator_withFiles same
  · simp [IsCodeless, scaffoldGenerator] at codeless
  · have every : parameters.mode = .every := by
      simpa [IsCodeless, entrypointGenerator] using codeless
    exact entrypointGenerator_withFiles_of_every same every
  · exact configGenerator_withFiles same
  · exact gatewayGenerator_withFiles same

/-- Dependencies do not leak into what is generated. Those that do not say which package they are in
may be deleted before any run, and all of them before a run that names no types: neither the files
of the run change nor its error, nor what it notes. -/
theorem dependencies_do_not_leak {generator : Generator}
    (builtin : generator ∈ builtinGenerators toolchain) (parameters : Parameters)
    (request : Request) (kept : List File) :
    (Deletes request.IsPathless request.files kept →
        generator.generate parameters (request.withFiles kept) =
          generator.generate parameters request) ∧
      (IsCodeless generator parameters → Deletes request.IsDependency request.files kept →
        generator.generate parameters (request.withFiles kept) =
          generator.generate parameters request) :=
  ⟨generate_withFiles_of_pathless builtin, generate_withFiles_of_codeless builtin⟩

end

/-- A request for one file with two dependencies, of which only one says which package it is in. Both
declare a service and a message under names that the file uses as well. -/
def Schema.Request.shadowed : Request where
  fileNames := ["acme/users.proto"]
  files :=
    [ ((File.named "acme/old.proto" "acme").withMessage (.named "Key")).withService
        (.named "Users" [.named "Get" ".acme.Key" ".acme.Key"]),
      (((File.named "acme/shared.proto" "acme").withGoPackage "go.acme.dev/shared").withMessage
          (.named "Key")).withService (.named "Users" [.named "Get" ".acme.Key" ".acme.Key"]),
      ((File.named "acme/users.proto" "acme").withMessage (.named "User")).withService
        (.named "Users" [.named "Get" ".acme.Key" ".acme.User"]) ]

/-- The scaffold of a method is the same without the dependency that has no package, and the manifest
without either. -/
theorem dependencies_do_not_leak_shadowed :
    let parameters : Parameters := { service := "Users", method := "Get" }
    let request := Request.shadowed
    (Deletes request.IsPathless request.files (request.files.drop 1) ∧
        scaffoldGenerator.generate parameters (request.withFiles (request.files.drop 1)) =
          scaffoldGenerator.generate parameters request) ∧
      (Deletes request.IsDependency request.files (request.files.drop 2) ∧
        (configGenerator default).generate parameters (request.withFiles (request.files.drop 2)) =
          (configGenerator default).generate parameters request) := by
  intro parameters request
  have scaffold : scaffoldGenerator ∈ builtinGenerators default := by simp [builtinGenerators]
  have config : configGenerator default ∈ builtinGenerators default := by simp [builtinGenerators]
  have one : Deletes request.IsPathless request.files (request.files.drop 1) :=
    .drop ⟨rfl, rfl⟩ (.keep (.keep .nil))
  have two : Deletes request.IsDependency request.files (request.files.drop 2) :=
    .drop rfl (.drop rfl (.keep .nil))
  obtain ⟨pathless, -⟩ := dependencies_do_not_leak scaffold parameters request (request.files.drop 1)
  obtain ⟨-, codeless⟩ := dependencies_do_not_leak config parameters request (request.files.drop 2)
  exact ⟨⟨one, pathless one⟩, two, codeless (.inl (by simp [configGenerator])) two⟩

end MethodForge
