/-
Module: MethodForge.Proofs.Deploy.Agreement
Purpose: The rules that route calls and the manifests that deploy methods agree. They are written by
  two generators in runs of their own: the rules from the list of all methods, a manifest by a run
  that has to find its method again. All the same the rules have a block for each method, in order,
  and the block sends the calls of the method to the service that its manifest declares.
Main exports: RouteAgrees, gateway_agrees_with_manifests, manifest_name_cleaned_slashed
-/
import MethodForge.Proofs.Deploy.Reading
import MethodForge.Proofs.Generator.Manifests

namespace MethodForge

open Deploy (Route Routing metadata? routeBlocks)
open Deploy.Routing (authorityKey pathKey)
open Schema (File Method Request Service Target)
open Text (lowercase valuesUnder)

/-- Whether no name that a target is called or deployed by holds a line feed. -/
structure Schema.Target.Closed (target : Target) : Prop where
  package : '\n' ∉ target.file.package.toList
  service : '\n' ∉ target.serviceName.toList
  method : '\n' ∉ target.methodName.toList

instance (target : Target) : Decidable target.Closed :=
  decidable_of_iff ('\n' ∉ target.file.package.toList ∧ '\n' ∉ target.serviceName.toList ∧
      '\n' ∉ target.methodName.toList)
    ⟨fun ⟨package, service, method⟩ => ⟨package, service, method⟩,
      fun ⟨package, service, method⟩ => ⟨package, service, method⟩⟩

theorem Schema.Target.Closed.rpcPath {target : Target} (closed : target.Closed) :
    '\n' ∉ target.rpcPath.toList := by
  have text (scope : String) (plain : '\n' ∉ scope.toList) :
      '\n' ∉ ("/" ++ scope ++ target.serviceName ++ "/" ++ target.methodName).toList := by
    simp [plain, closed.service, closed.method]
  apply text
  split
  · decide
  · simp [closed.package]

theorem Schema.Target.Closed.deploymentName {target : Target} (closed : target.Closed) :
    '\n' ∉ (Naming.serviceName target.serviceName target.methodName).toList :=
  not_mem_serviceName (by decide) (by decide) closed.service closed.method

/-- Whether a block of the rules leads the calls of a method to the service that a file declares. -/
structure RouteAgrees (target : Target) (block : List String) (file : GeneratedFile)
    (name kubeNamespace : String) : Prop where
  declared : metadata? file.content = some (name, kubeNamespace)
  path : valuesUnder pathKey block = [target.rpcPath]
  authority : valuesUnder authorityKey block =
    [name ++ "." ++ kubeNamespace ++ ".svc.cluster.local"]
  /-- The file is named for the service, as a path is that has been cleaned. -/
  fileName : file.name = Path.join [".", name ++ ".yaml"]
  plainFileName : '/' ∉ target.serviceName.toList → '/' ∉ target.methodName.toList →
    file.name = name ++ ".yaml"

/-- The rule for a method leads to the service that its planned manifest declares. -/
theorem routeAgrees_planned {gateway parameters : Parameters} {request : Request} {target : Target}
    (member : target ∈ request.targets) (closed : target.Closed)
    (closedSpace : '\n' ∉ gateway.targetNamespace.toList)
    (spaces : parameters.targetNamespace = gateway.targetNamespace) :
    RouteAgrees target ((routingOf gateway request).blockLines (Route.ofTarget target))
      (manifestFile (plannedManifest parameters request target))
      (Naming.serviceName target.serviceName target.methodName) gateway.targetNamespace := by
  have name := plannedManifest_name parameters member
  have space := plannedManifest_kubeNamespace parameters request target
  rw [spaces] at space
  have closedName : '\n' ∉ (plannedManifest parameters request target).name.toList := by
    rw [name]
    exact closed.deploymentName
  have declared := Deploy.metadata?_text closedName (by rw [space]; exact closedSpace)
  rw [name, space] at declared
  constructor
  · rw [manifestFile_content]
    exact declared
  · exact Routing.valuesUnder_path _ _
  · exact Routing.valuesUnder_authority _ _
  · rw [manifestFile_name, name]
  · intro service method
    rw [manifestFile_name_of_slashless, name]
    rw [name]
    exact not_mem_serviceName (by decide) (by decide) service method

/-- The rules and the planned manifests agree method by method. -/
theorem gateway_agrees_with_manifests {toolchain : Toolchain} {start filled : Registry}
    {gateway parameters : Parameters} {request : Request}
    (granted : (start.claimAll (builtinGenerators toolchain)).value = (filled, none))
    (named : ∀ target ∈ request.targets, target.Named)
    (closed : ∀ target ∈ request.targets, target.Closed)
    (closedNamespace : '\n' ∉ gateway.kubeNamespace.toList)
    (closedDomain : '\n' ∉ gateway.domain.toList)
    (same : parameters.kubeNamespace = gateway.kubeNamespace) :
    ∃ (rules : GeneratedFile) (manifests : List GeneratedFile),
      (gatewayGenerator.generate gateway request).value = .ok [rules] ∧
        rules.name = "gateway.yaml" ∧
        (planAll "config" parameters request .shared).map
            (fun run => (filled.renderOne run request).value) =
          manifests.map (fun file => .ok [file]) ∧
        (routeBlocks rules.content).length = request.targets.length ∧
        ∀ (index : Nat) (target : Target), request.targets[index]? = some target →
          ∃ block file name kubeNamespace, (routeBlocks rules.content)[index]? = some block ∧
            manifests[index]? = some file ∧ RouteAgrees target block file name kubeNamespace := by
  let routing := routingOf gateway request
  let manifests := request.targets.map fun target =>
    manifestFile (plannedManifest parameters request target)
  have spaces : parameters.targetNamespace = gateway.targetNamespace := by
    rw [Parameters.targetNamespace, Parameters.targetNamespace, same]
  have closedSpace : '\n' ∉ gateway.targetNamespace.toList := by
    unfold Parameters.targetNamespace
    split
    · decide
    · exact closedNamespace
  have closedRoutes : ∀ route ∈ routing.routes,
      '\n' ∉ route.path.toList ∧ '\n' ∉ route.serviceName.toList := by
    intro route member
    obtain ⟨target, inRequest, rfl⟩ := List.mem_map.1 member
    exact ⟨(closed target inRequest).rpcPath, (closed target inRequest).deploymentName⟩
  have blocks : routeBlocks routing.text =
      request.targets.map fun target => routing.blockLines (Route.ofTarget target) := by
    have closedLines : ∀ line ∈ routing.lines, '\n' ∉ line.toList :=
      routing.closed_of_mem_lines closedSpace closedDomain closedRoutes
    rw [Routing.routeBlocks_text closedLines]
    exact List.map_map
  refine ⟨⟨"gateway.yaml", routing.text⟩, manifests, rfl, rfl, ?_, ?_, ?_⟩
  · rw [map_renderOne_config granted named, List.map_map]
    rfl
  · rw [blocks, List.length_map]
  · intro index target place
    have member := List.mem_of_getElem? place
    refine ⟨routing.blockLines (Route.ofTarget target),
      manifestFile (plannedManifest parameters request target),
      Naming.serviceName target.serviceName target.methodName, gateway.targetNamespace, ?_, ?_, ?_⟩
    · rw [blocks, List.getElem?_map, place, Option.map_some]
    · rw [List.getElem?_map, place, Option.map_some]
    · exact routeAgrees_planned member (closed target member) closedSpace spaces

/-- The rule and the manifest of the second of two methods, where the record of the rules names a
method that there is not. -/
theorem gateway_agrees_with_manifests_users :
    let gateway : Parameters :=
      { domain := "api.acme.dev", service := "Keys", method := "Get", nestedDirectory := "gen/.." }
    let request := Request.users
    (∀ target ∈ request.targets, target.Named) ∧ (∀ target ∈ request.targets, target.Closed) ∧
      ∃ (rules : GeneratedFile) (manifests : List GeneratedFile),
        (gatewayGenerator.generate gateway request).value = .ok [rules] ∧
          (planAll "config" {} request .shared).map
              (fun run => ((Registry.builtin default).value.renderOne run request).value) =
            manifests.map (fun file => .ok [file]) ∧
          (routeBlocks rules.content).length = 2 ∧
          ∃ block file name kubeNamespace, (routeBlocks rules.content)[1]? = some block ∧
            manifests[1]? = some file ∧
            RouteAgrees request.targets[1] block file name kubeNamespace := by
  intro gateway request
  have named : ∀ target ∈ request.targets, target.Named := by decide
  have closed : ∀ target ∈ request.targets, target.Closed := by decide
  obtain ⟨rules, manifests, generated, -, rendered, count, agrees⟩ :=
    gateway_agrees_with_manifests (Registry.claimAll_builtin default) named closed
      (show '\n' ∉ gateway.kubeNamespace.toList by decide) (by decide)
      (show ({} : Parameters).kubeNamespace = gateway.kubeNamespace from rfl)
  exact ⟨named, closed, rules, manifests, generated, rendered, count, agrees 1 _ rfl⟩

/-- A request for a service with slashes in its name. -/
def Schema.Request.slashed : Request where
  fileNames := ["a.proto"]
  files := [(File.named "a.proto" "").withService (.named "a//b" [.named "M" "" ""])]

/-- Slashes in a name are cleaned in the name of the manifest file and left in the manifest. -/
theorem manifest_name_cleaned_slashed :
    let request := Request.slashed
    (∀ target ∈ request.targets, target.Named) ∧ (∀ target ∈ request.targets, target.Closed) ∧
      ∃ file : GeneratedFile,
        (planAll "config" {} request .shared).map
            (fun run => ((Registry.builtin default).value.renderOne run request).value) =
          [.ok [file]] ∧
        metadata? file.content = some ("a//b-m", "default") ∧ file.name = "a/b-m.yaml" := by
  intro request
  have named : ∀ target ∈ request.targets, target.Named := by decide
  let manifest := plannedManifest {} request request.targets[0]
  have name : manifest.name = "a//b-m" := by decide
  have space : manifest.kubeNamespace = "default" := by decide
  have declared : metadata? manifest.text = some (manifest.name, manifest.kubeNamespace) :=
    Deploy.metadata?_text (by rw [name]; decide) (by rw [space]; decide)
  rw [name, space, ← manifestFile_content] at declared
  refine ⟨named, by decide, manifestFile manifest, ?_, declared, ?_⟩
  · exact map_renderOne_config (Registry.claimAll_builtin default) named
  · rw [manifestFile_name, name]
    decide

end MethodForge
