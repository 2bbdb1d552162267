/-
Module: MethodForge.Generator.Builtin
Purpose: The five generators. Three of them write Go: `methods` the tree of directives that leads to
  the implementations, `scaffold` the file in which a method is implemented, and `entrypoint` the
  program that serves it. Two write what deploys it: `config` a manifest for each method and
  `gateway` the rules that route all of them. Run on every method, `methods`, `entrypoint` and
  `config` only leave directives; `scaffold` cannot be, and `gateway` always is.
Main exports: methodsGenerator, scaffoldGenerator, entrypointGenerator, configGenerator,
  gatewayGenerator, builtinGenerators
-/
import MethodForge.Deploy.Manifest
import MethodForge.Deploy.Routing
import MethodForge.DispatchFile
import MethodForge.Generator.Basic
import MethodForge.Go.EntrypointFile

namespace MethodForge

open Deploy (Manifest Routing)
open Go (EntrypointFile ScaffoldFile)
open Log (Detail Event Logged)
open Schema (Request)

/-- The name of the Go files with code. -/
def goFileName : String := "main.go"

/-- The one file of directives of a run. -/
def dispatchOutput (file : DispatchFile) : List GeneratedFile :=
  [⟨DispatchFile.fileName, Text.tidy file.text⟩]

/-- The directives of a run on every method. -/
def dispatchToAll (name package : String) (fanout : Fanout) (createsDirectories : Bool)
    (toolchain : Toolchain) (parameters : Parameters) (request : Request) : DispatchFile where
  package := package
  runs := planAll name parameters request fanout
  toolchain := toolchain
  protos := protoArguments parameters request
  createsDirectories := createsDirectories

/-- Notes how many runs were planned. -/
def notePlanned (source : Log.Source) (what : String) (file : DispatchFile) : Logged Unit :=
  .tell (.note .debug source s!"planned {what}" [.count "count" file.runs.length])

/-- The directive of `methods` for a single method: it scaffolds the method in place. -/
def scaffoldDispatch (toolchain : Toolchain) (parameters : Parameters) (request : Request)
    (target : Schema.Target) : DispatchFile where
  package := Naming.methodPackage target.methodName
  runs :=
    [⟨".", parameters.withTarget "scaffold" target.serviceName target.methodName
        parameters.nestedDirectory⟩]
  toolchain := toolchain
  protos := protoArguments parameters request
  createsDirectories := false

/-- Leads to the implementations. They belong to the user once they are there, so this generator
never writes one: on every method it creates directories and a directive for itself in each, and on
a single method a directive for `scaffold`. -/
def methodsGenerator (toolchain : Toolchain) : Generator where
  name := "methods"
  description := "go:generate tree that scaffolds method implementations"
  generate := fun parameters request =>
    match parameters.mode with
    | .every => do
        let file := dispatchToAll "methods" "methods" .perMethod true toolchain parameters request
        notePlanned .methods "method directories" file
        return .ok (dispatchOutput file)
    | .single _ _ =>
        match parameters.target request with
        | .error error => return .error error
        | .ok target =>
            return .ok (dispatchOutput (scaffoldDispatch toolchain parameters request target))

/-- Writes the file in which a method is implemented. -/
def scaffoldGenerator : Generator where
  name := "scaffold"
  description := "method implementation stub"
  generate := fun parameters request =>
    match parameters.target request with
    | .error error => return .error error
    | .ok target => do
        Logged.tell (.note .debug .scaffold s!"rendering scaffold for {parameters.display}"
          [⟨"shape", target.shape.display⟩])
        return .ok [⟨goFileName, Text.tidy (ScaffoldFile.ofTarget parameters request target).text⟩]

/-- Writes the program that serves a method. -/
def entrypointGenerator (toolchain : Toolchain) : Generator where
  name := "entrypoint"
  description := "gRPC server binary per method"
  generate := fun parameters request =>
    match parameters.mode with
    | .every => do
        let file :=
          dispatchToAll "entrypoint" "entrypoint" .perMethod true toolchain parameters request
        notePlanned .entrypoint "entrypoint directories" file
        return .ok (dispatchOutput file)
    | .single _ _ =>
        match parameters.target request with
        | .error error => return .error error
        | .ok target => do
            Logged.tell (.note .debug .entrypoint s!"rendering entrypoint for {parameters.display}"
              [⟨"shape", target.shape.display⟩])
            return .ok
              [⟨goFileName, Text.tidy (EntrypointFile.ofTarget parameters request target).text⟩]

/-- The manifest of a method. -/
def manifestOf (parameters : Parameters) (target : Schema.Target) : Manifest :=
  let service := target.serviceName
  let method := target.methodName
  { name := Naming.serviceName service method
    kubeNamespace := parameters.targetNamespace
    image := Naming.entrypointImage parameters.base parameters.genDir service method
    binary := Naming.methodPackage method
    deploy? := target.method.deployOptions? }

/-- The name of the file of a manifest. -/
def manifestFileName (manifest : Manifest) : String :=
  manifest.name ++ ".yaml"

/-- Writes the manifest of a method. -/
def configGenerator (toolchain : Toolchain) : Generator where
  name := "config"
  description := "Knative Service manifest per method"
  generate := fun parameters request =>
    match parameters.mode with
    | .every => do
        let file := dispatchToAll "config" "config" .shared false toolchain parameters request
        notePlanned .config "manifests" file
        return .ok (dispatchOutput file)
    | .single _ _ =>
        match parameters.target request with
        | .error error => return .error error
        | .ok target =>
            let manifest := manifestOf parameters target
            return .ok [⟨manifestFileName manifest, manifest.text⟩]

/-- The rules for all methods of a request. -/
def routingOf (parameters : Parameters) (request : Request) : Routing where
  kubeNamespace := parameters.targetNamespace
  domain := parameters.domain
  routes := Deploy.routes request

/-- Writes the rules that route all methods. It works on every method, whatever the record says. -/
def gatewayGenerator : Generator where
  name := "gateway"
  description := "Istio VirtualService routing every method"
  generate := fun parameters request => do
    let routing := routingOf parameters request
    Logged.tell (.note .debug .gateway "rendering gateway routes"
      [.count "count" routing.routes.length])
    return .ok [⟨"gateway.yaml", routing.text⟩]

/-- The five generators, in the order in which they are registered. -/
def builtinGenerators (toolchain : Toolchain) : List Generator :=
  [ methodsGenerator toolchain,
    scaffoldGenerator,
    entrypointGenerator toolchain,
    configGenerator toolchain,
    gatewayGenerator ]

end MethodForge
