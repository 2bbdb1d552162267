/-
Module: MethodForge.Go.ScaffoldFile
Purpose: The Go file in which a user fills in a method. It imports exactly the packages of the types
  that the method takes and gives.
Main exports: ScaffoldFile, ScaffoldFile.ofTarget, ScaffoldFile.lines
-/
import MethodForge.Go.Stubs
import MethodForge.Go.Types
import MethodForge.Parameters.Basic
import MethodForge.Text.Lines

namespace MethodForge.Go

open Schema (Method Request Target)

/-- The functions of a method are written from its types as the resolver finds them. -/
def signature (resolver : Resolver) (service : String) (method : Method) :
    Signature × Resolver :=
  let (input, resolver) := resolver.resolve method.inputType
  let (output, resolver) := resolver.resolve method.outputType
  ( { shape := method.shape
      service
      method := method.name
      request := input.text
      response := output.text },
    resolver )

/-- What the file is written from. -/
structure ScaffoldFile where
  /-- The Go package of the file. -/
  package : String
  imports : List GoImport
  signature : Signature
deriving Repr, DecidableEq

namespace ScaffoldFile

/-- The file for a method. -/
def ofTarget (parameters : Parameters) (request : Request) (target : Target) : ScaffoldFile :=
  let start := Resolver.start request target.file parameters.base parameters.genDir
  let (signature, resolver) := Go.signature start target.serviceName target.method
  { package := Naming.methodPackage target.methodName
    imports := resolver.imports
    signature }

/-- The lines of the file. -/
def lines (file : ScaffoldFile) : List String :=
  [ "package " ++ file.package,
    "",
    "import (",
    "\t\"context\"",
    "\t\"errors\"",
    "" ] ++
    file.imports.map GoImport.line ++
    [ ")",
      "",
      "// Avoid import errors for streams.",
      "var _ = context.TODO()",
      "" ] ++
    file.signature.implementation

/-- The text of the file. -/
def text (file : ScaffoldFile) : String :=
  Text.unlines file.lines

end ScaffoldFile

end MethodForge.Go
