/-
Module: MethodForge.Proofs.Deploy.Deployments
Purpose: Which methods share a deployment. A method is deployed under its own name and that of its
  service in small letters, and neither the package nor the case of a name is left in it. So two
  methods have the same deployment, and the same manifest file, exactly when these names agree, be
  they of two packages or of one service.
Main exports: Target.smallNames, serviceName_eq_iff, deployments_distinct_iff,
  deployment_shared_versioned
-/
import MethodForge.Proofs.DispatchFile.Paths
import MethodForge.Proofs.Generator.Manifests

namespace MethodForge

open Deploy (Route routes)
open Schema (File Method Request Service Target)
open Text (IsIdentifier lowercase)

/-- The names of a target in small letters. -/
def Schema.Target.smallNames (target : Target) : String × String :=
  (lowercase target.serviceName, lowercase target.methodName)

/-- An identifier holds none of the signs that stand between names. -/
theorem Text.IsIdentifier.not_mem {text : String} (identifier : IsIdentifier text) {sign : Char}
    (other : Text.isIdentifierCharacter sign = false) : sign ∉ text.toList := by
  intro member
  rw [identifier.2.1 sign member] at other
  cases other

theorem dash_not_mem_lowercase {text : String} (identifier : IsIdentifier text) :
    '-' ∉ (lowercase text).toList := by
  intro member
  exact identifier.not_mem (by decide) (Text.mem_of_mem_lowercase (by decide) member)

/-- Two methods are deployed under one name exactly when their names agree in small letters. -/
theorem serviceName_eq_iff {first second : Target} (identifiers : first.HasIdentifiers) :
    Naming.serviceName first.serviceName first.methodName =
        Naming.serviceName second.serviceName second.methodName ↔
      first.smallNames = second.smallNames := by
  have service : '-' ∉ first.smallNames.1.toList := dash_not_mem_lowercase identifiers.1
  have method : '-' ∉ first.smallNames.2.toList := dash_not_mem_lowercase identifiers.2
  have characters (target : Target) :
      (Naming.serviceName target.serviceName target.methodName).toList =
        target.smallNames.1.toList ++ '-' :: target.smallNames.2.toList := by
    simp [Naming.serviceName, Target.smallNames]
  rw [← String.toList_inj, characters, characters,
    List.append_cons_inj_of_notMem service method, Prod.ext_iff, String.toList_inj,
    String.toList_inj]
  simp

/-- The values of two functions repeat together where they tell the same entries apart. -/
theorem nodup_map_iff_of_eq_iff {α β γ : Type} {entries : List α} {one : α → β} {other : α → γ}
    (same : ∀ first ∈ entries, ∀ second ∈ entries,
      one first = one second ↔ other first = other second) :
    (entries.map one).Nodup ↔ (entries.map other).Nodup := by
  rw [List.Nodup, List.Nodup, List.pairwise_map, List.pairwise_map]
  exact List.Pairwise.iff_of_mem fun first second => not_congr (same _ first _ second)

/-- The manifest of a method that has an identifier for a name is named for its deployment. -/
theorem manifestFile_name_of_identifiers {parameters : Parameters} {request : Request}
    {target : Target} (member : target ∈ request.targets) (identifiers : target.HasIdentifiers) :
    (manifestFile (plannedManifest parameters request target)).name =
      Naming.serviceName target.serviceName target.methodName ++ ".yaml" := by
  have name := plannedManifest_name parameters member
  have slashless : '/' ∉ (plannedManifest parameters request target).name.toList := by
    rw [name]
    exact not_mem_serviceName (by decide) (by decide) (identifiers.1.not_mem (by decide))
      (identifiers.2.not_mem (by decide))
  rw [manifestFile_name_of_slashless slashless, name]

/-- The rules send methods to distinct services, and their manifests have distinct names, exactly
when no two methods have the same names in small letters. -/
theorem deployments_distinct_iff {toolchain : Toolchain} {start filled : Registry}
    {parameters : Parameters} {request : Request}
    (granted : (start.claimAll (builtinGenerators toolchain)).value = (filled, none))
    (identifiers : ∀ target ∈ request.targets, target.HasIdentifiers) :
    (((routes request).map Route.serviceName).Nodup ↔
        (request.targets.map Target.smallNames).Nodup) ∧
      ∃ files : List GeneratedFile,
        (planAll "config" parameters request .shared).map
            (fun run => (filled.renderOne run request).value) = files.map (fun file => .ok [file]) ∧
          files.map (·.name) = (routes request).map (·.serviceName ++ ".yaml") ∧
            ((files.map (·.name)).Nodup ↔ (request.targets.map Target.smallNames).Nodup) := by
  have rules : (routes request).map Route.serviceName =
      request.targets.map fun target =>
        Naming.serviceName target.serviceName target.methodName := by
    rw [routes, List.map_map]
    rfl
  have services : ((routes request).map Route.serviceName).Nodup ↔
      (request.targets.map Target.smallNames).Nodup := by
    rw [rules]
    exact nodup_map_iff_of_eq_iff fun first member second _ =>
      serviceName_eq_iff (identifiers first member)
  let files := request.targets.map fun target =>
    manifestFile (plannedManifest parameters request target)
  have names : files.map (·.name) = (routes request).map (·.serviceName ++ ".yaml") := by
    rw [routes, List.map_map, List.map_map]
    exact List.map_congr_left fun target member =>
      manifestFile_name_of_identifiers member (identifiers target member)
  have written : (files.map (·.name)).Nodup ↔ ((routes request).map Route.serviceName).Nodup := by
    rw [names]
    exact nodup_map_iff_of_eq_iff fun first _ second _ => String.append_left_inj ".yaml"
  refine ⟨services, files, ?_, names, written.trans services⟩
  rw [map_renderOne_config granted fun target member => (identifiers target member).named,
    List.map_map]
  rfl

/-- The two methods of one service are deployed apart. -/
theorem deployments_distinct_users :
    let request := Request.users
    (∀ target ∈ request.targets, target.HasIdentifiers) ∧
      ((routes request).map Route.serviceName).Nodup ∧
      ∃ files : List GeneratedFile,
        (planAll "config" {} request .shared).map
            (fun run => ((Registry.builtin default).value.renderOne run request).value) =
          files.map (fun file => .ok [file]) ∧ (files.map (·.name)).Nodup := by
  intro request
  have identifiers : ∀ target ∈ request.targets, target.HasIdentifiers := by decide
  have small : (request.targets.map Target.smallNames).Nodup := by decide
  obtain ⟨services, files, rendered, -, distinct⟩ :=
    deployments_distinct_iff (Registry.claimAll_builtin default) identifiers
  exact ⟨identifiers, services.2 small, files, rendered, distinct.2 small⟩

/-- A request with a service of the same name in two versions of a package. -/
def Schema.Request.versioned : Request where
  fileNames := ["acme/v1/users.proto", "acme/v2/users.proto"]
  files :=
    [ (File.named "acme/v1/users.proto" "acme.v1").withService
        (.named "Users" [.named "Get" ".acme.v1.Key" ".acme.v1.User"]),
      (File.named "acme/v2/users.proto" "acme.v2").withService
        (.named "Users" [.named "Get" ".acme.v2.Key" ".acme.v2.User"]) ]

/-- Two methods of different packages have one deployment and one manifest. -/
theorem deployment_shared_versioned :
    let request := Request.versioned
    (∀ target ∈ request.targets, target.HasIdentifiers) ∧
      (request.targets.map fun target =>
        (target.file.package, target.serviceName, target.methodName)).Nodup ∧
      (routes request).map Route.serviceName = ["users-get", "users-get"] ∧
      ¬ ((routes request).map Route.serviceName).Nodup ∧
      (planAll "config" {} request .shared).map
          (fun run => ((Registry.builtin default).value.renderOne run request).value.map
            (·.map (·.name))) =
        [.ok ["users-get.yaml"], .ok ["users-get.yaml"]] :=
  ⟨by decide, by decide, rfl, by decide, rfl⟩

end MethodForge
