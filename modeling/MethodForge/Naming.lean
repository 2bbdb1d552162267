/-
Module: MethodForge.Naming
Purpose: The names that a method has outside its service: the name it is deployed under, the directory
  of its code, the Go packages that hold it, and the path of its image. All generators take them from
  here, so that what one of them writes is found by the others.
Main exports: serviceName, methodDirectory, methodPackage, lastSegment, protoImportPath,
  implementationImportPath, entrypointImage
-/
import MethodForge.Path
import MethodForge.Text.Lowercase

namespace MethodForge.Naming

open Text (lowercase)

/-- The name that a method is deployed under. -/
def serviceName (service method : String) : String :=
  lowercase service ++ "-" ++ lowercase method

/-- The directory of a method's code below that of its generator. -/
def methodDirectory (service method : String) : String :=
  Path.join [lowercase service, lowercase method]

/-- The Go package of a method's implementation. -/
def methodPackage (method : String) : String :=
  lowercase method

/-- What comes after the last dot of a full name. -/
def lastSegment (qualified : String) : String :=
  String.ofList (qualified.toList.reverse.takeWhile (· != '.')).reverse

/-- The import path of the Go code for the messages of a file, which keeps the directory of the
file. -/
def protoImportPath (base genDir fileName : String) : String :=
  Path.join [base, genDir, "proto", Path.parent fileName]

/-- The import path of a method's implementation. -/
def implementationImportPath (base methodsDir service method : String) : String :=
  Path.join [base, methodsDir, methodDirectory service method]

/-- The path of the image in which a method is deployed. -/
def entrypointImage (base genDir service method : String) : String :=
  Path.join [base, genDir, "entrypoint", methodDirectory service method]

end MethodForge.Naming
