/-
Module: MethodForge.Registry
Purpose: Generators under the names by which records ask for them. A name belongs to the generator
  that claimed it first; a later claim is refused and changes nothing. What a refused caller sees
  depends on the call that made the claim.
Main exports: Registry, Registry.claim, Registry.claimAll, Registry.builtin, Registry.Call,
  Registry.perform, Registry.lookup, Registry.renderOne
-/
import MethodForge.Generator.Builtin

namespace MethodForge

open Log (Event Logged)
open Schema (Request)

/-- A claim of a name that is taken. -/
structure Conflict where
  name : String
deriving Repr, DecidableEq

/-- The message of a conflict. -/
def Conflict.message (conflict : Conflict) : String :=
  s!"Duplicate generator named {Text.quoted conflict.name} registered"

/-- Generators under their names. -/
structure Registry where
  generators : SortedMap Generator := .empty

namespace Registry

/-- The registry without generators. -/
def empty : Registry := {}

/-- The generator under a name. -/
def lookup (registry : Registry) (name : String) : Option Generator :=
  registry.generators.find? name

/-- The names, in ascending order. -/
def names (registry : Registry) : List String :=
  registry.generators.keys

/-- The number of generators. -/
def size (registry : Registry) : Nat :=
  registry.generators.size

/-- Whether there is no generator. -/
def isEmpty (registry : Registry) : Bool :=
  registry.generators.isEmpty

/-- Puts a generator under a name, unless the name is taken. -/
def claim (registry : Registry) (name : String) (generator : Generator) :
    Logged (Except Conflict Registry) :=
  if registry.generators.contains name then return .error ⟨name⟩
  else do
    Logged.tell (.note .trace .registry "registered generator" [.quoted "generator" name])
    return .ok ⟨registry.generators.insert name generator⟩

/-- Puts generators under their own names, up to the first one whose name is taken. -/
def claimAll (registry : Registry) : List Generator → Logged (Registry × Option Conflict)
  | [] => return (registry, none)
  | generator :: rest => do
      match ← registry.claim generator.name generator with
      | .error conflict => return (registry, some conflict)
      | .ok registry => registry.claimAll rest

/-- The registry of the five generators. -/
def builtin (toolchain : Toolchain) : Logged Registry := do
  let (registry, _) ← empty.claimAll (builtinGenerators toolchain)
  return registry

/-- A call that puts generators into a registry. -/
inductive Call where
  /-- Puts a generator under its own name; a name that is taken is a panic. -/
  | register (generator : Generator)
  /-- Puts a generator under a name; a name that is taken is a panic. -/
  | registerAs (name : String) (generator : Generator)
  /-- Puts a generator under its own name, if that is free. -/
  | tryRegister (generator : Generator)
  /-- Puts a generator under a name, if that is free. -/
  | tryRegisterAs (name : String) (generator : Generator)
  /-- Puts the five generators under their names; a name that is taken is a panic. -/
  | registerBuiltin (toolchain : Toolchain)

/-- How a call ends. -/
inductive CallResult where
  | done
  /-- The name was taken, and the caller is told so. -/
  | refused (conflict : Conflict)
  /-- The name was taken, and the caller panics with a text. -/
  | panicked (text : String)
deriving Repr, DecidableEq

/-- How a call ends when a claim of it is refused. -/
def Call.refuse (call : Call) (conflict : Conflict) : Logged CallResult :=
  match call with
  | .tryRegister _ | .tryRegisterAs _ _ => return .refused conflict
  | .register _ | .registerAs _ _ | .registerBuiltin _ => do
      Logged.tell (.note .error .registry conflict.message)
      return .panicked conflict.message

/-- Makes the one claim of a call. -/
def performClaim (registry : Registry) (call : Call) (name : String) (generator : Generator) :
    Logged (Registry × CallResult) := do
  match ← registry.claim name generator with
  | .error conflict => return (registry, ← call.refuse conflict)
  | .ok registry => return (registry, .done)

/-- Makes the claims of a call, up to the first one whose name is taken. -/
def perform (registry : Registry) (call : Call) : Logged (Registry × CallResult) :=
  match call with
  | .register generator | .tryRegister generator =>
      registry.performClaim call generator.name generator
  | .registerAs name generator | .tryRegisterAs name generator =>
      registry.performClaim call name generator
  | .registerBuiltin toolchain => do
      match ← registry.claimAll (builtinGenerators toolchain) with
      | (registry, some conflict) => return (registry, ← call.refuse conflict)
      | (registry, none) => return (registry, .done)

/-- Runs a planned run at once. The names of the files are taken from the directory of the plan. -/
def renderOne (registry : Registry) (run : PlannedRun) (request : Request) : Logged Generated := do
  let name := run.parameters.name
  match registry.lookup name with
  | none => return .error (.invalidParameters s!"no generator named {Text.quoted name}")
  | some generator =>
      match ← generator.generate run.parameters request with
      | .error error => return .error error
      | .ok files =>
          return .ok (files.map fun file =>
            { file with name := Path.join [run.directory, file.name] })

end Registry

end MethodForge
