/-
Module: MethodForge.Parameters.Basic
Purpose: The record of settings that goes with every run of a generator. Nine texts: the generator to
  run, the layout of the repository, where to deploy, and, for a run on a single method, which one
  and where its output goes. An empty text stands for a setting that is not there. The fields are
  listed once, in their order, so that reading and writing a record walk the same list.
Main exports: Parameters, Field, Parameters.get, Parameters.ofFields, Mode, Parameters.mode
-/
import MethodForge.Path
import MethodForge.Text.Quoted

namespace MethodForge

/-- The settings of one run. -/
structure Parameters where
  /-- The generator to run. -/
  name : String := ""
  /-- The import path of the repository's root. -/
  base : String := ""
  /-- The directory of generated code, from the root. -/
  genDir : String := ""
  /-- The directory of method implementations, from the root. -/
  methodsDir : String := ""
  /-- The host that the gateway serves. -/
  domain : String := ""
  /-- The Kubernetes namespace to deploy into. -/
  kubeNamespace : String := ""
  /-- The service of a run on a single method. -/
  service : String := ""
  /-- The method of a run on a single method. -/
  method : String := ""
  /-- The output directory of the run, from the root. -/
  nestedDirectory : String := ""
deriving Repr, DecidableEq, Inhabited

namespace Parameters

/-- A field of the record. -/
inductive Field where
  | name
  | base
  | genDir
  | methodsDir
  | domain
  | kubeNamespace
  | service
  | method
  | nestedDirectory
deriving Repr, DecidableEq

/-- The fields in the order in which a record is written. -/
def Field.all : List Field :=
  [.name, .base, .genDir, .methodsDir, .domain, .kubeNamespace, .service, .method,
   .nestedDirectory]

/-- The key under which a field is written. -/
def Field.key : Field → String
  | .name => "name"
  | .base => "base"
  | .genDir => "gen_dir"
  | .methodsDir => "methods_dir"
  | .domain => "domain"
  | .kubeNamespace => "namespace"
  | .service => "service"
  | .method => "method"
  | .nestedDirectory => "nested_directory"

/-- The field that is written under a key. -/
def Field.ofKey? (key : String) : Option Field :=
  Field.all.find? fun field => field.key == key

/-- The value of a field. -/
def get (parameters : Parameters) : Field → String
  | .name => parameters.name
  | .base => parameters.base
  | .genDir => parameters.genDir
  | .methodsDir => parameters.methodsDir
  | .domain => parameters.domain
  | .kubeNamespace => parameters.kubeNamespace
  | .service => parameters.service
  | .method => parameters.method
  | .nestedDirectory => parameters.nestedDirectory

/-- The record with the given values. -/
def ofFields (value : Field → String) : Parameters where
  name := value .name
  base := value .base
  genDir := value .genDir
  methodsDir := value .methodsDir
  domain := value .domain
  kubeNamespace := value .kubeNamespace
  service := value .service
  method := value .method
  nestedDirectory := value .nestedDirectory

/-- What a run works on. -/
inductive Mode where
  /-- Every method. -/
  | every
  /-- One method of one service. -/
  | single (service method : String)
deriving Repr, DecidableEq

/-- A run works on every method exactly when it names neither a service nor a method. -/
def mode (parameters : Parameters) : Mode :=
  if parameters.service.isEmpty && parameters.method.isEmpty then .every
  else .single parameters.service parameters.method

/-- Whether service and method are named together or not at all. -/
def isWhole (parameters : Parameters) : Bool :=
  parameters.service.isEmpty == parameters.method.isEmpty

/-- The path from the output directory back to the root. -/
def nestingEscape (parameters : Parameters) : String :=
  Path.escape parameters.nestedDirectory

/-- The record for a following run of the generator `name` on one method, with its output in
`nestedDirectory`. Layout and deployment stay as they are. -/
def withTarget (parameters : Parameters) (name service method nestedDirectory : String) :
    Parameters :=
  { parameters with name, service, method, nestedDirectory }

/-- The short form in which messages name a run. -/
def display (parameters : Parameters) : String :=
  s!"{parameters.name} ({parameters.service}.{parameters.method})"

/-- The long form in which messages show a record, every field with its quoted value. -/
def describe (parameters : Parameters) : String :=
  let field (each : Field) : String := each.key ++ ": " ++ Text.quoted (parameters.get each)
  "Parameters \x7b " ++ ", ".intercalate (Field.all.map field) ++ " \x7d"

end Parameters

end MethodForge
