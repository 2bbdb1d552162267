/-
Module: MethodForge.Proofs.Go.Imports
Purpose: Generated Go code as it is written, and the imports in it. A program is written from the lines
  of its import block, its server methods and a part that only the service is named in; a scaffold
  from its imports and the lines of one function. No package gets the alias of the home package or
  that of the implementation. So one line of a program imports the home package and one the
  implementation, and a scaffold imports the home package at most once.
Main exports: aliasKey, quotedPath, importLine, programImports, programLines,
  EntrypointFile.isWrittenFrom, valuesUnder_home, valuesUnder_implementation, scaffoldLines,
  ScaffoldFile.isWrittenFrom, ScaffoldFile.imported_cases, entrypointGenerator_written,
  scaffoldGenerator_written
-/
import MethodForge.Proofs.Generator.Builtin
import MethodForge.Proofs.Go.Resolution
import MethodForge.Proofs.Text.Written

namespace MethodForge.Go

open Schema (Request Target)
open Text (IsWrittenFrom Neat startsWith tidy valuesUnder)

/-! ### Lines of imports -/

/-- The line that imports a path under an alias, up to the path. -/
def aliasKey (label : String) : String :=
  "\t" ++ label ++ " "

/-- A path as it stands in an import. -/
def quotedPath (path : String) : String :=
  "\"" ++ path ++ "\""

/-- The line that imports a path under an alias. -/
def importLine (imported : GoImport) : String :=
  aliasKey imported.alias ++ quotedPath imported.path

theorem GoImport.line_eq (imported : GoImport) : imported.line = importLine imported := by
  have text : imported.line =
      "\t" ++ imported.alias ++ " \"" ++ imported.path ++ "\"" := rfl
  simp [text, importLine, aliasKey, quotedPath, ← String.toList_inj]

theorem GoImport.map_line (imports : List GoImport) :
    imports.map GoImport.line = imports.map importLine :=
  List.map_congr_left fun imported _ => imported.line_eq

/-- An import that is one line is neat. -/
theorem neat_importLine {imported : GoImport} (closed : '\n' ∉ (importLine imported).toList) :
    Neat (importLine imported) := by
  have text : importLine imported =
      aliasKey imported.alias ++ "\"" ++ imported.path ++ "\"" := by
    simp [importLine, quotedPath, ← String.toList_inj]
  rw [text] at closed ⊢
  rw [String.toList_append] at closed
  exact Text.neat_append_word (fun inside => closed (List.mem_append_left _ inside)) (by decide)

theorem importLine_ne_empty (imported : GoImport) : importLine imported ≠ "" := by
  simp [importLine, quotedPath]

theorem valuesUnder_importLine (imported : GoImport) :
    valuesUnder (aliasKey imported.alias) [importLine imported] = [quotedPath imported.path] := by
  rw [importLine, Text.valuesUnder_cons]
  rfl

/-- The aliases that are kept for packages of their own. -/
def keptAliases : List String :=
  [homeAlias, Signature.implementationAlias]

/-- The imports of other packages have neither the alias of the home package nor that of the
implementation. -/
theorem not_prefix_importLine {imported : GoImport} {position : Nat}
    (numbered : imported.alias = Resolver.otherAlias position) {label : String}
    (kept : label ∈ keptAliases) : ¬ (aliasKey label).toList <+: (importLine imported).toList := by
  obtain ⟨digit, rest, digits, notSpace⟩ := exists_toDigits_cons (position + 1)
  rw [importLine, numbered]
  simp only [keptAliases, List.mem_cons, List.not_mem_nil, or_false] at kept
  rcases kept with rfl | rfl
  · simp [aliasKey, Resolver.otherAlias, homeAlias, digits, notSpace.symm]
  · simp [aliasKey, Resolver.otherAlias, homeAlias, Signature.implementationAlias]

theorem valuesUnder_numbered {imports : List GoImport}
    (numbered : ∀ imported ∈ imports, ∃ position, imported.alias = Resolver.otherAlias position)
    {label : String} (kept : label ∈ keptAliases) :
    valuesUnder (aliasKey label) (imports.map importLine) = [] := by
  refine Text.valuesUnder_eq_nil fun line member => ?_
  obtain ⟨imported, inImports, rfl⟩ := List.mem_map.1 member
  obtain ⟨position, named⟩ := numbered imported inImports
  exact not_prefix_importLine named kept

/-! ### Programs -/

/-- The packages that every program imports. -/
def programPackages : List String :=
  [ "\t\"context\"",
    "\t\"errors\"",
    "\t\"fmt\"",
    "\t\"io\"",
    "\t\"log\"",
    "\t\"net\"",
    "\t\"os\"",
    "\t\"time\"",
    "",
    "\t\"google.golang.org/grpc\"",
    "\t\"google.golang.org/grpc/codes\"",
    "\thealthpb \"google.golang.org/grpc/health/grpc_health_v1\"",
    "\t\"google.golang.org/grpc/status\"",
    "" ]

/-- The part of the import block that all programs of a service share. -/
def sharedImports (home : String) (others : List GoImport) : List String :=
  programPackages ++ importLine ⟨"pb", home⟩ :: others.map importLine

/-- The import block of a program, without its brackets. -/
def programImports (home : String) (others : List GoImport) (implementation : String) :
    List String :=
  sharedImports home others ++ [importLine ⟨"impl", implementation⟩]

/-- The lines of a program with an import block and with server methods. -/
def programLines (service : String) (imports : List String) (stubs : List (List String)) :
    List String :=
  [ "package main",
    "",
    "import (" ] ++
    imports ++
    [ ")",
      "",
      "type server struct\x7b\x7d",
      "" ] ++
    [""].intercalate stubs ++
    "" :: EntrypointFile.mainLines service

namespace EntrypointFile

/-- The server methods of a program, each with its lines. -/
def stubs (file : EntrypointFile) : List (List String) :=
  file.signatures.map file.stub

/-- The import block of a program, without its brackets. -/
def imports (file : EntrypointFile) : List String :=
  programImports file.home file.otherImports file.implementation

theorem lines_eq (file : EntrypointFile) :
    file.lines = programLines file.service file.imports file.stubs := by
  have block : file.importLines = "import (" :: file.imports ++ [")"] := by
    simp only [importLines, imports, programImports, sharedImports, GoImport.map_line,
      GoImport.line_eq]
    simp [programPackages, homeAlias, Signature.implementationAlias]
  rw [lines, block, stubLines, programLines]
  simp [stubs]

/-- The text of a program is written from its import block and its server methods. -/
theorem isWrittenFrom (file : EntrypointFile) :
    IsWrittenFrom (tidy file.text) (programLines file.service file.imports file.stubs) := by
  rw [← lines_eq]
  exact Text.isWrittenFrom_tidy file.lines

/-- The imports of a program are the home package, others that its types are in, and the
implementation. -/
theorem ofTarget_imports (parameters : Parameters) (request : Request) (target : Target) :
    let file := ofTarget parameters request target
    file.home =
        Naming.protoImportPath parameters.base parameters.genDir target.file.name ∧
      file.implementation =
        Naming.implementationImportPath parameters.base parameters.methodsDir target.serviceName
          target.methodName ∧
      ∀ imported ∈ file.otherImports,
        ∃ position, imported.alias = Resolver.otherAlias position := by
  let start := Resolver.start request target.file parameters.base parameters.genDir
  refine ⟨(signatures_extends start _ _).home, rfl, fun imported member => ?_⟩
  have sound := (Resolver.sound_start request target.file parameters.base parameters.genDir)
    |>.signatures target.serviceName target.service.methods
  exact sound.exists_alias_eq member

end EntrypointFile

section

variable {home implementation : String} {others : List GoImport}
  (numbered : ∀ imported ∈ others, ∃ position, imported.alias = Resolver.otherAlias position)
include numbered

/-- One line of a program imports the home package. -/
theorem valuesUnder_home :
    valuesUnder (aliasKey "pb") (programImports home others implementation) =
      [quotedPath home] := by
  have own := valuesUnder_importLine ⟨"pb", home⟩
  have numbers : valuesUnder (aliasKey "pb") (others.map importLine) = [] :=
    valuesUnder_numbered numbered (by decide)
  have packages : valuesUnder (aliasKey "pb") programPackages = [] :=
    Text.valuesUnder_eq_nil (by decide)
  have last : valuesUnder (aliasKey "pb") [importLine ⟨"impl", implementation⟩] = [] :=
    Text.valuesUnder_eq_nil (by simp [importLine, aliasKey])
  rw [programImports, sharedImports, ← List.singleton_append, Text.valuesUnder_append,
    Text.valuesUnder_append, Text.valuesUnder_append, packages, own, numbers, last]
  rfl

/-- No line that the programs of a service share imports an implementation. -/
theorem valuesUnder_sharedImports :
    valuesUnder (aliasKey "impl") (sharedImports home others) = [] := by
  have numbers : valuesUnder (aliasKey "impl") (others.map importLine) = [] :=
    valuesUnder_numbered numbered (by decide)
  have packages : valuesUnder (aliasKey "impl") programPackages = [] :=
    Text.valuesUnder_eq_nil (by decide)
  have first : valuesUnder (aliasKey "impl") [importLine ⟨"pb", home⟩] = [] :=
    Text.valuesUnder_eq_nil (by simp [importLine, aliasKey])
  rw [sharedImports, ← List.singleton_append, Text.valuesUnder_append, Text.valuesUnder_append,
    packages, numbers, first]
  rfl

/-- One line of a program imports the implementation. -/
theorem valuesUnder_implementation :
    valuesUnder (aliasKey "impl") (programImports home others implementation) =
      [quotedPath implementation] := by
  rw [programImports, Text.valuesUnder_append, valuesUnder_sharedImports numbered,
    List.nil_append]
  exact valuesUnder_importLine ⟨"impl", implementation⟩

end

/-! ### Scaffolds -/

/-- The lines of a scaffold with imports and with a function. -/
def scaffoldLines (package : String) (imports : List GoImport) (function : List String) :
    List String :=
  [ "package " ++ package,
    "",
    "import (",
    "\t\"context\"",
    "\t\"errors\"",
    "" ] ++
    imports.map importLine ++
    [ ")",
      "",
      "// Avoid import errors for streams.",
      "var _ = context.TODO()",
      "" ] ++
    function

/-- The lines of a scaffold that start with a key are among its imports and its function, unless one
of the lines does that all scaffolds have. -/
theorem filter_scaffoldLines {key package : String} (imports : List GoImport)
    (function : List String) (clause : ¬ key.toList <+: ("package " ++ package).toList)
    (fixed : ∀ line ∈ ["", "import (", "\t\"context\"", "\t\"errors\"", ")",
        "// Avoid import errors for streams.", "var _ = context.TODO()"],
      ¬ key.toList <+: line.toList) :
    (scaffoldLines package imports function).filter (startsWith key) =
      (imports.map importLine).filter (startsWith key) ++ function.filter (startsWith key) := by
  have front : ∀ line ∈
      ["package " ++ package, "", "import (", "\t\"context\"", "\t\"errors\"", ""],
      ¬ key.toList <+: line.toList := by
    rw [List.forall_mem_cons]
    exact ⟨clause, fun line member => fixed line (List.subset_def.1 (by simp) member)⟩
  have between : ∀ line ∈ [")", "", "// Avoid import errors for streams.", "var _ = context.TODO()",
      ""], ¬ key.toList <+: line.toList :=
    fun line member => fixed line (List.subset_def.1 (by simp) member)
  rw [scaffoldLines, List.filter_append, List.filter_append, List.filter_append,
    Text.filter_startsWith_eq_nil front, Text.filter_startsWith_eq_nil between, List.nil_append,
    List.append_nil]

namespace ScaffoldFile

/-- The text of a scaffold is written from its imports and the implementation to be filled in. -/
theorem isWrittenFrom (file : ScaffoldFile) :
    IsWrittenFrom (tidy file.text)
      (scaffoldLines file.package file.imports file.signature.implementation) := by
  have lines : file.lines =
      scaffoldLines file.package file.imports file.signature.implementation := by
    rw [ScaffoldFile.lines, scaffoldLines, GoImport.map_line]
  rw [← lines]
  exact Text.isWrittenFrom_tidy file.lines

/-- A scaffold imports the home package under its alias, and all other packages under numbers. -/
theorem imported_cases (parameters : Parameters) (request : Request) (target : Target)
    {imported : GoImport} (member : imported ∈ (ofTarget parameters request target).imports) :
    imported = ⟨homeAlias,
        Naming.protoImportPath parameters.base parameters.genDir target.file.name⟩ ∨
      ∃ position, imported.alias = Resolver.otherAlias position := by
  let start := Resolver.start request target.file parameters.base parameters.genDir
  have sound : (Go.signature start target.serviceName target.method).2.Sound :=
    (Resolver.sound_start _ _ _ _).signature _ _
  have home := (signature_extends start target.serviceName target.method).home
  have split : imported ∈ (Go.signature start target.serviceName target.method).2.imports := member
  rw [Resolver.imports, List.mem_append] at split
  rcases split with first | other
  · left
    split at first
    · rw [List.mem_singleton.1 first, home]
      rfl
    · cases first
  · exact Or.inr (sound.exists_alias_eq other)

end ScaffoldFile

end MethodForge.Go

namespace MethodForge

open Go (EntrypointFile ScaffoldFile programLines scaffoldLines)
open Schema (Request Target)
open Text (IsWrittenFrom)

variable {parameters : Parameters} {request : Request} {target : Target}

/-- What is written for a method that is found is the program that serves it. -/
theorem entrypointGenerator_written (toolchain : Toolchain)
    (found : parameters.target request = .ok target) :
    let file := EntrypointFile.ofTarget parameters request target
    ∃ content,
      ((entrypointGenerator toolchain).generate parameters request).value =
          .ok [⟨goFileName, content⟩] ∧
        IsWrittenFrom content (programLines target.serviceName file.imports file.stubs) :=
  ⟨_, entrypointGenerator_single found, EntrypointFile.isWrittenFrom _⟩

/-- What is written for a method that is found is the file in which to fill it in. -/
theorem scaffoldGenerator_written (found : parameters.target request = .ok target) :
    let file := ScaffoldFile.ofTarget parameters request target
    ∃ content,
      (scaffoldGenerator.generate parameters request).value = .ok [⟨goFileName, content⟩] ∧
        IsWrittenFrom content
          (scaffoldLines (Naming.methodPackage target.methodName) file.imports
            file.signature.implementation) :=
  ⟨_, scaffoldGenerator_single found, ScaffoldFile.isWrittenFrom _⟩

end MethodForge
