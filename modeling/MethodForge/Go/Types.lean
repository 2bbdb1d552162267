/-
Module: MethodForge.Go.Types
Purpose: The Go types of messages. A message is named in full by its package and the messages around
  it; in Go it is a type of the package of its file, named through an alias. The package next to
  which a generated file stands is its home and has the alias `pb`; every other package gets `pb1`,
  `pb2` and so on when a type of it is first used. A file to generate for has its package in the
  generated tree; any other file only has one if it names it.
Main exports: GoType, GoImport, Declaration, declarations, Resolver, Resolver.resolve
-/
import MethodForge.Naming
import MethodForge.Schema.Basic

namespace MethodForge.Go

open Schema (File Message Request)

/-- The alias of the home package. -/
def homeAlias : String := "pb"

/-- A Go type of an imported package. -/
structure GoType where
  «alias» : String
  name : String
deriving Repr, DecidableEq, Inhabited

/-- A type as Go code names it. -/
def GoType.text (type : GoType) : String :=
  type.alias ++ "." ++ type.name

/-- An imported package. -/
structure GoImport where
  «alias» : String
  path : String
deriving Repr, DecidableEq, Inhabited

/-- An import as a line of Go code. -/
def GoImport.line (imported : GoImport) : String :=
  s!"\t{imported.alias} \"{imported.path}\""

/-- A message that Go code can use. -/
structure Declaration where
  /-- The full name of the message. -/
  qualified : String
  /-- The import path of its package. -/
  path : String
  /-- The name of its type in the package. -/
  goName : String
deriving Repr, DecidableEq, Inhabited

/-- The name of a type inside another, or at the top of its package. -/
def nestedName (outer name : String) : String :=
  if outer.isEmpty then name else outer ++ "_" ++ name

mutual

/-- The declarations of a message: those inside it, then its own. `scope` is the full name of what is
around it and `outer` the type around it, empty at the top. -/
def messageDeclarations (path scope outer : String) : Message → List Declaration
  | ⟨name?, nested⟩ =>
      let qualified := scope ++ "." ++ name?.getD ""
      let goName := nestedName outer (name?.getD "")
      nestedDeclarations path qualified goName nested ++ [⟨qualified, path, goName⟩]

/-- The declarations of several messages. -/
def nestedDeclarations (path scope outer : String) : List Message → List Declaration
  | [] => []
  | message :: rest =>
      messageDeclarations path scope outer message ++ nestedDeclarations path scope outer rest

end

/-- The import path of a file's package, if it has one. -/
def packagePath? (request : Request) (base genDir : String) (file : File) : Option String :=
  if request.isGenerated file then some (Naming.protoImportPath base genDir file.name)
  else file.goImportPath?

/-- The full name of a file's package, with a dot before it. -/
def packageScope (file : File) : String :=
  if file.package.isEmpty then "" else "." ++ file.package

/-- The declarations of a file, none if it has no package. -/
def fileDeclarations (request : Request) (base genDir : String) (file : File) :
    List Declaration :=
  match packagePath? request base genDir file with
  | none => []
  | some path => nestedDeclarations path (packageScope file) "" file.messages

/-- The declarations of all files, in order. -/
def declarations (request : Request) (base genDir : String) : List Declaration :=
  request.files.flatMap (fileDeclarations request base genDir)

/-- Finds the types of messages and keeps the imports that they need. -/
structure Resolver where
  /-- What can be used, the last declared first, so that it is the one found under its name. -/
  known : List Declaration
  /-- The import path of the home package. -/
  home : String
  /-- Whether a type of the home package has been used. -/
  homeUsed : Bool := false
  /-- The other packages used, in the order of first use, each with its alias. -/
  otherImports : List GoImport := []
deriving Repr

namespace Resolver

/-- The resolver for code that stands next to the package of the file `home`. -/
def start (request : Request) (home : File) (base genDir : String) : Resolver :=
  { known := (declarations request base genDir).reverse
    home := Naming.protoImportPath base genDir home.name }

/-- The alias of a package besides home that is first used when `count` others have been. -/
def otherAlias (count : Nat) : String :=
  homeAlias ++ toString (count + 1)

/-- The alias of a package, which is imported from now on if it was not. -/
def aliasFor (resolver : Resolver) (path : String) : String × Resolver :=
  if path = resolver.home then (homeAlias, { resolver with homeUsed := true })
  else
    match resolver.otherImports.find? (·.path == path) with
    | some known => (known.alias, resolver)
    | none =>
        let label := otherAlias resolver.otherImports.length
        (label, { resolver with otherImports := resolver.otherImports ++ [⟨label, path⟩] })

/-- The declaration under a full name. -/
def find? (resolver : Resolver) (qualified : String) : Option Declaration :=
  resolver.known.find? (·.qualified == qualified)

/-- The type of a message. A message that is not known is taken to be in the home package. -/
def resolve (resolver : Resolver) (qualified : String) : GoType × Resolver :=
  match resolver.find? qualified with
  | none => (⟨homeAlias, Naming.lastSegment qualified⟩, { resolver with homeUsed := true })
  | some declaration =>
      let («alias», resolver) := resolver.aliasFor declaration.path
      (⟨«alias», declaration.goName⟩, resolver)

/-- All packages used, home first. -/
def imports (resolver : Resolver) : List GoImport :=
  (if resolver.homeUsed then [⟨homeAlias, resolver.home⟩] else []) ++ resolver.otherImports

end Resolver

end MethodForge.Go
