/-
Module: MethodForge.Proofs.Go.UsedImports
Purpose: The imports of a program that its server methods use. A program imports the packages of all
  types of its service, but its server methods do not write all of these types: what is written is
  up to the shape of a method and to whether it is the one that is served. So an import is used
  exactly when a type of its package is written, and Go rejects a program for a service whose only
  type of some package is streamed by a method that is served elsewhere.
Main exports: EntrypointFile.Uses, TypedIn, WrittenIn, EntrypointFile.uses_of_written,
  EntrypointFile.written_of_uses, otherImports_used_iff
-/
import MethodForge.Proofs.Go.Imports
import MethodForge.Proofs.Go.Stubs
import MethodForge.Proofs.Generator.Builtin
import Mathlib.Data.List.Infix

namespace MethodForge.Go

open Schema (Method Request Service Target)

/-! ### Aliases in code -/

/-- What points to a type tells its alias. -/
theorem alias_eq_of_isPrefix {type : GoType} (typeDotless : '.' ∉ type.alias.toList) {label : String}
    (dotless : '.' ∉ label.toList) {pointee : List Char} (leads : type.text.toList <+: pointee)
    (qualified : (label ++ ".").toList <+: pointee) : type.alias = label := by
  obtain ⟨after, rfl⟩ := leads
  obtain ⟨rest, same⟩ := qualified
  have cut : label.toList ++ '.' :: rest =
      type.alias.toList ++ '.' :: (type.name.toList ++ after) := by
    simpa [GoType.text] using same
  have pieces := congrArg (List.splitOn '.') cut
  rw [List.splitOn_append_cons_self_of_not_mem dotless,
    List.splitOn_append_cons_self_of_not_mem typeDotless, List.cons.injEq] at pieces
  exact String.toList_inj.1 pieces.1.symm

theorem prefix_of_alias_eq {type : GoType} {label : String} (same : type.alias = label)
    {pointee : List Char} (leads : type.text.toList <+: pointee) :
    (label ++ ".").toList <+: pointee := by
  refine List.IsPrefix.trans ?_ leads
  rw [GoType.text, same, String.toList_append (s := label ++ ".")]
  exact List.prefix_append _ _

/-! ### Packages of types -/

/-- Whether a type of some method of a service is in a package besides home. -/
def TypedIn (resolver : Resolver) (service : Service) (path : String) : Prop :=
  ∃ method ∈ service.methods, ∃ qualified ∈ [method.inputType, method.outputType],
    resolver.foreign? qualified = some path

/-- Whether a type that a server method writes is in a package besides home, where the method of one
name is served. -/
def WrittenIn (resolver : Resolver) (service : Service) (served path : String) : Prop :=
  ∃ method ∈ service.methods,
    ∃ qualified ∈
        writtenTypes (method.name = served) method.shape method.inputType method.outputType,
      resolver.foreign? qualified = some path

/-! ### Uses of imports -/

namespace EntrypointFile

/-- Whether a server method of the program points to a type of the package under an alias. Where the
alias does not stand behind a star, it is part of a name or of a message and is no use of a package. -/
def Uses (file : EntrypointFile) (label : String) : Prop :=
  ∃ stub ∈ file.stubs, ∃ pointee ∈ pointeesOf stub, (label ++ ".").toList <+: pointee

theorem stub_eq (file : EntrypointFile) (signature : Signature) :
    file.stub signature = signature.stub (signature.method = file.served) := by
  simp [stub, Signature.stub]

section

variable (parameters : Parameters) (request : Request) (target : Target)

/-- The resolver with which the types of a program are named. -/
def startResolver : Resolver :=
  Resolver.start request target.file parameters.base parameters.genDir

/-- The resolver when the types of all methods have been named. -/
def endResolver : Resolver :=
  (Go.signatures (startResolver parameters request target) target.serviceName
    target.service.methods).2

theorem sound_endResolver : (endResolver parameters request target).Sound :=
  (Resolver.sound_start _ _ _ _).signatures _ _

theorem endResolver_foreign? :
    (endResolver parameters request target).foreign? =
      (startResolver parameters request target).foreign? :=
  (signatures_extends _ _ _).foreign?_eq

theorem ofTarget_signatures :
    (ofTarget parameters request target).signatures =
      target.service.methods.map
        ((endResolver parameters request target).signatureOf target.serviceName) :=
  signatures_fst (Resolver.Extends.refl _) (sound_endResolver parameters request target)

end

variable {parameters : Parameters} {request : Request} {target : Target}

/-- A program imports, besides home, the packages that types of its service are in. -/
theorem mem_others_endResolver {path : String} :
    path ∈ (endResolver parameters request target).others ↔
      TypedIn (startResolver parameters request target) target.service path := by
  rw [endResolver, mem_others_signatures]
  simp [startResolver, Resolver.start, Resolver.others, TypedIn]

/-- The types of a method are imported. -/
theorem imported_of_mem {method : Method} (member : method ∈ target.service.methods)
    {qualified : String} (typed : qualified ∈ [method.inputType, method.outputType]) {path : String}
    (foreign : (endResolver parameters request target).foreign? qualified = some path) :
    path ∈ (endResolver parameters request target).others := by
  rw [endResolver_foreign?] at foreign
  exact mem_others_endResolver.2 ⟨method, member, qualified, typed, foreign⟩

/-- The alias of a package is that of the types in it, among the types of the service. -/
theorem alias_eq_iff_of_mem {method : Method} (member : method ∈ target.service.methods)
    {qualified : String} (typed : qualified ∈ [method.inputType, method.outputType])
    {imported : GoImport} (there : imported ∈ (endResolver parameters request target).otherImports) :
    ((endResolver parameters request target).resolve qualified).1.alias = imported.alias ↔
      (startResolver parameters request target).foreign? qualified = some imported.path := by
  rw [← endResolver_foreign?]
  refine Resolver.alias_eq_iff (sound_endResolver _ _ _) (fun other foreign => ?_) there
  exact imported_of_mem member typed foreign

/-- An import is used when a type of its package is written. -/
theorem uses_of_written {imported : GoImport}
    (there : imported ∈ (ofTarget parameters request target).otherImports)
    (written : WrittenIn (startResolver parameters request target) target.service target.methodName
      imported.path) :
    (ofTarget parameters request target).Uses imported.alias := by
  obtain ⟨method, member, qualified, inMethod, foreign⟩ := written
  have label := (alias_eq_iff_of_mem member (mem_of_mem_writtenTypes inMethod) there).2 foreign
  let signature := (endResolver parameters request target).signatureOf target.serviceName method
  have inFile : signature ∈ (ofTarget parameters request target).signatures := by
    rw [ofTarget_signatures]
    exact List.mem_map_of_mem member
  have named : (endResolver parameters request target).typeText qualified ∈
      writtenTypes (method.name = target.methodName) signature.shape signature.request
        signature.response := by
    have mapped := List.mem_map_of_mem (f := (endResolver parameters request target).typeText)
      inMethod
    rw [← writtenTypes_map] at mapped
    exact mapped
  obtain ⟨pointee, points, leads⟩ := Signature.exists_pointee_of_written named
  refine ⟨_, List.mem_map_of_mem inFile, pointee, ?_, prefix_of_alias_eq label leads⟩
  rw [stub_eq]
  exact points

/-- Where no name holds a star, an import is used in no other case. -/
theorem written_of_uses
    (starless : ∀ signature ∈ (ofTarget parameters request target).signatures, signature.Starless)
    {imported : GoImport} (there : imported ∈ (ofTarget parameters request target).otherImports)
    (uses : (ofTarget parameters request target).Uses imported.alias) :
    WrittenIn (startResolver parameters request target) target.service target.methodName
      imported.path := by
  obtain ⟨stub, inStubs, pointee, points, qualifies⟩ := uses
  obtain ⟨signature, inFile, rfl⟩ := List.mem_map.1 inStubs
  have plain := starless signature inFile
  rw [ofTarget_signatures] at inFile
  obtain ⟨method, member, rfl⟩ := List.mem_map.1 inFile
  rw [stub_eq] at points
  rcases Signature.pointee_stub plain points with ⟨after, rfl⟩ | ⟨type, written, leads⟩
  · obtain ⟨position, numbered⟩ := (sound_endResolver parameters request target).exists_alias_eq there
    simp [numbered, toList_otherAlias] at qualifies
  · have named : type ∈
        (writtenTypes (method.name = target.methodName) method.shape method.inputType
          method.outputType).map (endResolver parameters request target).typeText := by
      rw [← writtenTypes_map]
      exact written
    obtain ⟨qualified, inMethod, rfl⟩ := List.mem_map.1 named
    have sound := sound_endResolver parameters request target
    obtain ⟨position, numbered⟩ := sound.exists_alias_eq there
    have dotless : '.' ∉ imported.alias.toList := numbered ▸ dot_not_mem_otherAlias position
    have label := alias_eq_of_isPrefix (Resolver.dot_not_mem_alias sound qualified) dotless leads
      qualifies
    refine ⟨method, member, qualified, inMethod, ?_⟩
    exact (alias_eq_iff_of_mem member (mem_of_mem_writtenTypes inMethod) there).1 label

end EntrypointFile

end MethodForge.Go

namespace MethodForge

open Go (EntrypointFile TypedIn WrittenIn programImports programLines)
open Go.EntrypointFile (startResolver)
open Schema (File Message Method Request Service Target)
open Text (IsWrittenFrom linesOf)

/-- A program is written from its imports and its server methods. It imports, besides home, the
packages that the types of its service are in. Each import is used of whose package a server method
writes a type, and where no name holds a star, all of them are used only if that is so for each. -/
theorem otherImports_used_iff (toolchain : Toolchain) {parameters : Parameters} {request : Request}
    {target : Target} (found : parameters.target request = .ok target) :
    let file := EntrypointFile.ofTarget parameters request target
    let start := startResolver parameters request target
    (∃ content,
      ((entrypointGenerator toolchain).generate parameters request).value =
          .ok [⟨goFileName, content⟩] ∧
        IsWrittenFrom content (programLines target.serviceName
          (programImports file.home file.otherImports file.implementation) file.stubs)) ∧
      (∀ path, path ∈ file.otherImports.map (·.path) ↔ TypedIn start target.service path) ∧
      (∀ imported ∈ file.otherImports,
        WrittenIn start target.service target.methodName imported.path →
          file.Uses imported.alias) ∧
      ((∀ signature ∈ file.signatures, signature.Starless) →
        ((∀ imported ∈ file.otherImports, file.Uses imported.alias) ↔
          ∀ path, TypedIn start target.service path →
            WrittenIn start target.service target.methodName path)) := by
  intro file start
  have paths (path : String) :
      path ∈ file.otherImports.map (·.path) ↔ TypedIn start target.service path := by
    rw [← EntrypointFile.mem_others_endResolver]
    rfl
  have used {imported : Go.GoImport} (member : imported ∈ file.otherImports)
      (written : WrittenIn start target.service target.methodName imported.path) :
      file.Uses imported.alias :=
    EntrypointFile.uses_of_written member written
  refine ⟨entrypointGenerator_written toolchain found, paths, fun _ => used, fun starless => ?_⟩
  constructor
  · intro all path typed
    obtain ⟨imported, member, rfl⟩ := List.mem_map.1 ((paths path).2 typed)
    exact EntrypointFile.written_of_uses starless member (all imported member)
  · intro written imported member
    exact used member (written _ ((paths _).1 (List.mem_map_of_mem member)))

/-- A request for a service whose second method streams messages of another package both ways. -/
def Schema.Request.audited : Request where
  fileNames := ["audit/audit.proto", "acme/users.proto"]
  files :=
    [ (File.named "audit/audit.proto" "audit").withMessage (.named "Entry"),
      ((File.named "acme/users.proto" "acme").withMessage (.named "User")).withService
        (.named "Users"
          [ .named "Get" ".acme.User" ".acme.User",
            (Method.named "Watch" ".audit.Entry" ".audit.Entry").streaming true true ]) ]

/-- The program that serves the method with the streams uses all that it imports. -/
theorem otherImports_used_watch :
    let parameters : Parameters := { name := "entrypoint", service := "Users", method := "Watch" }
    let target := Request.audited.targets[1]
    let file := EntrypointFile.ofTarget parameters Request.audited target
    parameters.target Request.audited = .ok target ∧
      (∀ signature ∈ file.signatures, signature.Starless) ∧ file.otherImports ≠ [] ∧
      ∀ imported ∈ file.otherImports, file.Uses imported.alias := by
  intro parameters target file
  have found : parameters.target Request.audited = .ok target := rfl
  have starless : ∀ signature ∈ file.signatures, signature.Starless := by decide +kernel
  refine ⟨found, starless, by decide, ?_⟩
  obtain ⟨-, -, -, exactly⟩ := otherImports_used_iff default found
  apply (exactly starless).2
  rintro path ⟨method, member, qualified, typed, foreign⟩
  refine ⟨method, member, qualified, ?_, foreign⟩
  -- Neither method leaves a type out: one is unary, the other one is served.
  rcases List.mem_cons.1 member with rfl | later
  · exact typed
  · rw [List.mem_singleton.1 later] at typed ⊢
    exact typed

/-- A program imports a package of which nothing is written in it: its server methods do not even
hold the alias. -/
theorem unused_import_audited :
    let parameters : Parameters := { name := "entrypoint", service := "Users", method := "Get" }
    let target := Request.audited.targets[0]
    parameters.target Request.audited = .ok target ∧
      ∃ content imports stubs,
        ((entrypointGenerator default).generate parameters Request.audited).value =
            .ok [⟨goFileName, content⟩] ∧
          IsWrittenFrom content (programLines "Users" imports stubs) ∧
          "\tpb1 \"proto/audit\"" ∈ imports ∧ "\tpb1 \"proto/audit\"".toList ∈ linesOf content ∧
          ∀ stub ∈ stubs, ∀ line ∈ stub, ¬ "pb1.".toList <:+: line.toList := by
  intro parameters target
  have found : parameters.target Request.audited = .ok target := rfl
  obtain ⟨content, generated, written⟩ := entrypointGenerator_written default found
  have imported : "\tpb1 \"proto/audit\"" ∈
      (EntrypointFile.ofTarget parameters Request.audited target).imports := by decide
  have unused : ∀ stub ∈ (EntrypointFile.ofTarget parameters Request.audited target).stubs,
      ∀ line ∈ stub, ¬ "pb1.".toList <:+: line.toList := by decide +kernel
  -- What else is in the file does not matter from here on.
  generalize EntrypointFile.imports _ = imports at written imported
  generalize EntrypointFile.stubs _ = stubs at written unused
  have inFile : "\tpb1 \"proto/audit\"" ∈ programLines target.serviceName imports stubs := by
    rw [programLines]
    simp only [List.mem_append]
    exact .inl (.inl (.inl (.inr imported)))
  have inText := written.mem_of_neat inFile ⟨by decide, by decide⟩ (by decide)
  exact ⟨found, content, imports, stubs, generated, written, imported, inText, unused⟩

end MethodForge
