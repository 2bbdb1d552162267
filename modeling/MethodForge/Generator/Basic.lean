/-
Module: MethodForge.Generator.Basic
Purpose: What a generator is: a name, a line about it, and a function from the settings of a run and a
  request to files or an error. A run on a single method first has to find it.
Main exports: GenerateError, Generator, Parameters.target, Parameters.targetNamespace
-/
import MethodForge.Log.Event
import MethodForge.Parameters.Basic
import MethodForge.Response
import MethodForge.Schema.Target

namespace MethodForge

open Log (Logged)
open Schema (Request Target)

/-- Why a generator gives no files. -/
inductive GenerateError where
  /-- No file to generate for declares the method. -/
  | notFound (service method : String)
  /-- The generator works on single methods only. -/
  | requiresMethod (generator : String)
  /-- The settings are of no use to the generator. -/
  | invalidParameters (reason : String)
deriving Repr, DecidableEq

/-- The message of an error. -/
def GenerateError.message : GenerateError → String
  | .notFound service method => s!"Unable to find {service}.{method}"
  | .requiresMethod generator =>
      s!"generator {Text.quoted generator} requires a target service and method"
  | .invalidParameters reason => s!"invalid parameters: {reason}"

/-- What a run of a generator gives. -/
abbrev Generated := Except GenerateError (List GeneratedFile)

/-- A generator. -/
structure Generator where
  /-- The name by which a record asks for the generator. -/
  name : String
  /-- A line about the generator. -/
  description : String := ""
  /-- Runs the generator. -/
  generate : Parameters → Request → Logged Generated

/-- The method that a run works on. -/
def Parameters.target (parameters : Parameters) (request : Request) :
    Except GenerateError Target :=
  match parameters.mode with
  | .every => .error (.requiresMethod parameters.name)
  | .single service method =>
      match request.findTarget? service method with
      | some target => .ok target
      | none => .error (.notFound service method)

/-- The namespace that a run deploys into: `default` unless the record names one. -/
def Parameters.targetNamespace (parameters : Parameters) : String :=
  if parameters.kubeNamespace.isEmpty then "default" else parameters.kubeNamespace

end MethodForge
