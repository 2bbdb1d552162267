/-
Module: MethodForge.Schema.Target
Purpose: The methods of a request. A target is a method together with the service and the file that
  declare it. A request has a target for each method of each service of each file to generate for,
  in the order of declaration, and the first one that has the names asked for is found.
Main exports: Shape, Target, Request.targets, Request.findTarget?
-/
import MethodForge.Schema.Basic

namespace MethodForge.Schema

/-- Which sides of a method send a stream. The order of the shapes is that of their names here. -/
inductive Shape where
  | unary
  | clientStreaming
  | serverStreaming
  | bidirectional
deriving Repr, DecidableEq, Inhabited

namespace Shape

/-- The shape of a method whose client and server send a stream or not. -/
def ofFlags : Bool → Bool → Shape
  | false, false => .unary
  | true, false => .clientStreaming
  | false, true => .serverStreaming
  | true, true => .bidirectional

/-- All shapes in their order. -/
def all : List Shape :=
  [.unary, .clientStreaming, .serverStreaming, .bidirectional]

/-- The place of a shape in the order. -/
def rank : Shape → Nat
  | .unary => 0
  | .clientStreaming => 1
  | .serverStreaming => 2
  | .bidirectional => 3

instance : LT Shape := ⟨fun first second => first.rank < second.rank⟩

instance (first second : Shape) : Decidable (first < second) :=
  inferInstanceAs (Decidable (first.rank < second.rank))

/-- The name of a shape in messages. -/
def display : Shape → String
  | .unary => "unary"
  | .clientStreaming => "client-streaming"
  | .serverStreaming => "server-streaming"
  | .bidirectional => "bidi-streaming"

end Shape

/-- The shape of a method. -/
def Method.shape (method : Method) : Shape :=
  Shape.ofFlags method.clientStreaming method.serverStreaming

/-- A method with the service and the file that declare it. -/
structure Target where
  file : File
  service : Service
  method : Method
deriving Repr, Inhabited

namespace Target

/-- The name of the service. -/
def serviceName (target : Target) : String :=
  target.service.name

/-- The name of the method. -/
def methodName (target : Target) : String :=
  target.method.name

/-- The shape of the method. -/
def shape (target : Target) : Shape :=
  target.method.shape

/-- The path under which the method is called. -/
def rpcPath (target : Target) : String :=
  let scope := if target.file.package.isEmpty then "" else target.file.package ++ "."
  "/" ++ scope ++ target.serviceName ++ "/" ++ target.methodName

/-- Whether the target has the given names. -/
def isNamed (target : Target) (service method : String) : Bool :=
  target.serviceName == service && target.methodName == method

end Target

/-- The targets of a file. -/
def File.targets (file : File) : List Target :=
  file.services.flatMap fun service => service.methods.map fun method => ⟨file, service, method⟩

/-- The targets of a request. -/
def Request.targets (request : Request) : List Target :=
  request.generatedFiles.flatMap File.targets

/-- The first target that has the given names. -/
def Request.findTarget? (request : Request) (service method : String) : Option Target :=
  request.targets.find? (·.isNamed service method)

end MethodForge.Schema
