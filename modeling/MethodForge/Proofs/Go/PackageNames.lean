/-
Module: MethodForge.Proofs.Go.PackageNames
Purpose: The package of a method's implementation. It is named for the method in small letters, in the
  file of the directive as in the file to be filled in, so the two of them share a directory without
  a clash. The small form of an identifier is an identifier, but nothing keeps it apart from the
  words of Go: a method may be called `Type`, `Main` or `_`, and then its program cannot import it.
Main exports: Go.keywords, Go.IsPackageName, Text.isIdentifier_lowercase, packageClauses_of_names,
  implementation_importable_iff, implementation_unimportable_reserved
-/
import MethodForge.Proofs.DispatchFile.Scaffolded
import MethodForge.Proofs.Generator.Coverage

namespace MethodForge

open Go (ScaffoldFile)
open Schema (File Method Request Service Target)
open Text (IsIdentifier IsWord lowercase)

/-! ### Names of packages -/

/-- The small form of an identifier is an identifier. -/
theorem Text.isIdentifier_lowercase {text : String} (identifier : IsIdentifier text) :
    IsIdentifier (lowercase text) := by
  obtain ⟨nonempty, allowed⟩ := identifier.lowercase
  refine ⟨nonempty, allowed, ?_⟩
  have ascii : ∀ character ∈ text.toList, character.toNat < 0x80 := by
    intro character member
    have bounds := (isIdentifierCharacter_iff character).1 (identifier.2.1 character member)
    omega
  rw [lowercase, String.toList_ofList, lowercaseFrom_of_ascii ascii, List.head?_map,
    Option.any_map]
  cases start : text.toList.head? with
  | none => rfl
  | some first =>
      have notDigit : isDigit first = false := by simpa [start] using identifier.2.2
      rw [Option.any_some]
      rcases lowercaseChar_eq_self_or first with same | small
      · rw [same, notDigit]
      · -- Digits come before the small letters.
        rw [firstSmall] at small
        rw [← Bool.not_eq_true, isDigit_iff]
        omega

namespace Go

/-- The words that Go keeps for itself. -/
def keywords : List String :=
  [ "break", "case", "chan", "const", "continue", "default", "defer", "else", "fallthrough", "for",
    "func", "go", "goto", "if", "import", "interface", "map", "package", "range", "return", "select",
    "struct", "switch", "type", "var" ]

/-- Whether Go takes a text as the name of a package that programs import: an identifier that is not
kept for anything else. A package `main` is a program, and nothing imports it. -/
def IsPackageName (name : String) : Prop :=
  IsIdentifier name ∧ name ∉ keywords ∧ name ≠ "_" ∧ name ≠ "main"

instance (name : String) : Decidable (IsPackageName name) :=
  inferInstanceAs (Decidable (_ ∧ _ ∧ _ ∧ _))

end Go

/-! ### The package of an implementation -/

section

variable {parameters : Parameters} {request : Request} {target : Target}

/-- A run that has the names of a method finds a method with these names. -/
theorem target_of_mem_names (member : target ∈ request.targets) (method : target.methodName ≠ "")
    (names : (parameters.service, parameters.method) = target.names) :
    ∃ found, parameters.target request = .ok found ∧ found.methodName = target.methodName := by
  obtain ⟨found, search⟩ := Schema.findTarget?_of_mem member
  obtain ⟨service, own⟩ := Prod.mk.inj names
  rw [← service, ← own] at search
  refine ⟨found, Parameters.target_of_names ?_ search, ?_⟩
  · rw [own]
    exact fun empty => method empty.2
  · rw [(Schema.names_of_findTarget? search).2.2, own]

/-- What `methods` writes for a method and what `scaffold` writes in the same directory name one
package. -/
theorem packageClauses_of_names (toolchain : Toolchain) (member : target ∈ request.targets)
    (identifier : IsIdentifier target.methodName)
    (names : (parameters.service, parameters.method) = target.names) :
    ∃ directives main,
      ((methodsGenerator toolchain).generate parameters request).value =
          .ok [⟨DispatchFile.fileName, directives⟩] ∧
        (scaffoldGenerator.generate (parameters.withTarget "scaffold" target.serviceName
          target.methodName parameters.nestedDirectory) request).value = .ok [⟨goFileName, main⟩] ∧
        packageClause? directives = some (Naming.methodPackage target.methodName) ∧
        packageClause? main = some (Naming.methodPackage target.methodName) := by
  obtain ⟨found, finds, same⟩ := target_of_mem_names member identifier.1 names
  let record := parameters.withTarget "scaffold" target.serviceName target.methodName
    parameters.nestedDirectory
  obtain ⟨scaffolded, findsToo, sameToo⟩ := target_of_mem_names member identifier.1
    (show (record.service, record.method) = target.names from rfl)
  have word : IsWord (Naming.methodPackage target.methodName) := identifier.isWord_lowercase
  refine ⟨_, _, methodsGenerator_single finds, scaffoldGenerator_single findsToo, ?_, ?_⟩
  · rw [← same] at word ⊢
    exact DispatchFile.packageClause?_text word
  · rw [← sameToo] at word ⊢
    exact ScaffoldFile.packageClause?_text word

/-- The directive of a method and its implementation are in one package, whose name is an identifier,
and the program of the method can import it exactly when the method is not named, capitals aside,
like something that Go keeps for itself. -/
theorem implementation_importable_iff (toolchain : Toolchain) (member : target ∈ request.targets)
    (identifier : IsIdentifier target.methodName)
    (names : (parameters.service, parameters.method) = target.names) :
    ∃ directives main package,
      ((methodsGenerator toolchain).generate parameters request).value =
          .ok [⟨DispatchFile.fileName, directives⟩] ∧
        (scaffoldGenerator.generate (parameters.withTarget "scaffold" target.serviceName
          target.methodName parameters.nestedDirectory) request).value = .ok [⟨goFileName, main⟩] ∧
        packageClause? directives = some package ∧ packageClause? main = some package ∧
        IsIdentifier package ∧
        (Go.IsPackageName package ↔
          lowercase target.methodName ∉ "_" :: "main" :: Go.keywords) := by
  obtain ⟨directives, main, written, scaffolded, clause, clauseToo⟩ :=
    packageClauses_of_names toolchain member identifier names
  have small := Text.isIdentifier_lowercase identifier
  refine ⟨directives, main, _, written, scaffolded, clause, clauseToo, small, ?_⟩
  rw [Go.IsPackageName, Naming.methodPackage, List.mem_cons, List.mem_cons, not_or, not_or]
  constructor
  · rintro ⟨-, noKeyword, notBlank, notMain⟩
    exact ⟨notBlank, notMain, noKeyword⟩
  · rintro ⟨notBlank, notMain, noKeyword⟩
    exact ⟨small, noKeyword, notBlank, notMain⟩

end

/-- The implementations of methods that are named like no word of Go can be imported. -/
theorem implementation_importable_users :
    let request := Request.users
    ∀ target ∈ request.targets,
      let parameters : Parameters := { service := target.serviceName, method := target.methodName }
      IsIdentifier target.methodName ∧ ∃ directives main package,
        ((methodsGenerator default).generate parameters request).value =
            .ok [⟨DispatchFile.fileName, directives⟩] ∧
          (scaffoldGenerator.generate (parameters.withTarget "scaffold" target.serviceName
            target.methodName parameters.nestedDirectory) request).value =
              .ok [⟨goFileName, main⟩] ∧
          packageClause? directives = some package ∧ packageClause? main = some package ∧
          Go.IsPackageName package := by
  intro request target member parameters
  have identifiers : ∀ target ∈ request.targets, IsIdentifier target.methodName := by decide
  have free : ∀ target ∈ request.targets,
      lowercase target.methodName ∉ "_" :: "main" :: Go.keywords := by decide
  have names : (parameters.service, parameters.method) = target.names := rfl
  obtain ⟨directives, main, package, written, scaffolded, clause, clauseToo, -, importable⟩ :=
    implementation_importable_iff default member (identifiers target member) names
  exact ⟨identifiers target member, directives, main, package, written, scaffolded, clause,
    clauseToo, importable.2 (free target member)⟩

/-- A request for a service whose methods are named, capitals aside, like what Go keeps for itself. -/
def Schema.Request.reserved : Request where
  fileNames := ["acme/shapes.proto"]
  files :=
    [(File.named "acme/shapes.proto" "acme").withService
      (.named "Shapes"
        [.named "Type" ".acme.Key" ".acme.Shape", .named "Main" ".acme.Key" ".acme.Shape",
          .named "_" ".acme.Key" ".acme.Shape"])]

/-- The package of a method that is named like a word of Go, like a program or like nothing cannot be
imported. -/
theorem implementation_unimportable_reserved :
    let request := Request.reserved
    (∀ target ∈ request.targets, IsIdentifier target.methodName) ∧
      request.targets.map (Naming.methodPackage ·.methodName) = ["type", "main", "_"] ∧
      ∀ target ∈ request.targets,
        let parameters : Parameters :=
          { service := target.serviceName, method := target.methodName }
        ∃ directives main package,
          ((methodsGenerator default).generate parameters request).value =
              .ok [⟨DispatchFile.fileName, directives⟩] ∧
            (scaffoldGenerator.generate (parameters.withTarget "scaffold" target.serviceName
              target.methodName parameters.nestedDirectory) request).value =
                .ok [⟨goFileName, main⟩] ∧
            packageClause? directives = some package ∧ packageClause? main = some package ∧
            ¬ Go.IsPackageName package := by
  intro request
  have identifiers : ∀ target ∈ request.targets, IsIdentifier target.methodName := by decide
  have kept : ∀ target ∈ request.targets,
      ¬ Go.IsPackageName (Naming.methodPackage target.methodName) := by decide
  refine ⟨identifiers, rfl, ?_⟩
  intro target member parameters
  obtain ⟨directives, main, written, scaffolded, clause, clauseToo⟩ :=
    packageClauses_of_names default member (identifiers target member)
      (show (parameters.service, parameters.method) = target.names from rfl)
  exact ⟨directives, main, _, written, scaffolded, clause, clauseToo, kept target member⟩

end MethodForge
