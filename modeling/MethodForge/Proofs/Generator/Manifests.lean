/-
Module: MethodForge.Proofs.Generator.Manifests
Purpose: The manifests of a plan. A run of `config` that is planned for a method finds the first method
  with its names, which need not be the same one, and writes the manifest of that. The name and the
  namespace in it are those of the method that it was planned for all the same, and the file is
  named for them.
Main exports: Request.namesake, plannedManifest, manifestFile, map_renderOne_config,
  plannedManifest_name, plannedManifest_kubeNamespace, manifestFile_name_of_slashless
-/
import MethodForge.Proofs.PlannedAgreement
import MethodForge.Proofs.Text.Lowercase

namespace MethodForge

open Deploy (Manifest)
open Path (join)
open Schema (Request Target)
open Text (lowercase)

/-! ### Methods found under a name -/

/-- The first target with the names of a target. -/
def Schema.Request.namesake (request : Request) (target : Target) : Target :=
  (request.findTarget? target.serviceName target.methodName).getD target

theorem findTarget?_eq_namesake {request : Request} {target : Target}
    (member : target ∈ request.targets) :
    request.findTarget? target.serviceName target.methodName = some (request.namesake target) := by
  obtain ⟨found, search⟩ := Schema.findTarget?_of_mem member
  rw [Request.namesake, search, Option.getD_some]

theorem names_namesake {request : Request} {target : Target} (member : target ∈ request.targets) :
    (request.namesake target).serviceName = target.serviceName ∧
      (request.namesake target).methodName = target.methodName :=
  (Schema.names_of_findTarget? (findTarget?_eq_namesake member)).2

/-! ### Planned manifests -/

/-- The manifest that the run writes which is planned for a target. -/
def plannedManifest (parameters : Parameters) (request : Request) (target : Target) : Manifest :=
  manifestOf (planTarget "config" parameters .shared target).parameters (request.namesake target)

/-- The file of a manifest, in the directory of its plan. -/
def manifestFile (manifest : Manifest) : GeneratedFile :=
  ⟨join [".", manifestFileName manifest], manifest.text⟩

theorem manifestFile_name (manifest : Manifest) :
    (manifestFile manifest).name = join [".", manifest.name ++ ".yaml"] := by
  rw [manifestFile, manifestFileName]

theorem manifestFile_content (manifest : Manifest) :
    (manifestFile manifest).content = manifest.text := by
  rw [manifestFile]

section

variable {toolchain : Toolchain} {start filled : Registry} {parameters : Parameters}
  {request : Request} {target : Target}

/-- The runs of `config` that are planned for a request write the planned manifests, in order. -/
theorem map_renderOne_config
    (granted : (start.claimAll (builtinGenerators toolchain)).value = (filled, none))
    (named : ∀ target ∈ request.targets, target.Named) :
    (planAll "config" parameters request .shared).map
        (fun run => (filled.renderOne run request).value) =
      request.targets.map fun target =>
        .ok [manifestFile (plannedManifest parameters request target)] := by
  have builtin : configGenerator toolchain ∈ builtinGenerators toolchain := by
    simp [builtinGenerators]
  rw [planAll, List.map_map]
  refine List.map_congr_left fun target member => ?_
  have record : (planTarget "config" parameters .shared target).parameters =
      parameters.withTarget "config" target.serviceName target.methodName
        parameters.nestedDirectory := rfl
  have known : filled.lookup (planTarget "config" parameters .shared target).parameters.name =
      some (configGenerator toolchain) := by
    rw [record]
    exact Registry.lookup_claimAll granted builtin
  have found : (planTarget "config" parameters .shared target).parameters.target request =
      .ok (request.namesake target) := by
    rw [record]
    exact parameters.target_withTarget (named target member).1 (findTarget?_eq_namesake member) _ _
  have directory : (planTarget "config" parameters .shared target).directory = "." := rfl
  rw [Function.comp_apply, renderOne_of_lookup known (configGenerator_single found), directory,
    manifestFile, plannedManifest]

theorem plannedManifest_name (parameters : Parameters) (member : target ∈ request.targets) :
    (plannedManifest parameters request target).name =
      Naming.serviceName target.serviceName target.methodName := by
  obtain ⟨service, method⟩ := names_namesake member
  rw [plannedManifest, manifestOf, service, method]

theorem plannedManifest_kubeNamespace (parameters : Parameters) (request : Request)
    (target : Target) :
    (plannedManifest parameters request target).kubeNamespace = parameters.targetNamespace := rfl

end

/-! ### Names of files -/

/-- The name of a deployment holds no sign that the names of its method do not, its dash apart. -/
theorem not_mem_serviceName {sign : Char} (early : sign.toNat < Text.firstSmall)
    (notDash : sign ≠ '-') {service method : String} (outsideService : sign ∉ service.toList)
    (outsideMethod : sign ∉ method.toList) :
    sign ∉ (Naming.serviceName service method).toList := by
  have small {text : String} (outside : sign ∉ text.toList) : sign ∉ (lowercase text).toList :=
    fun member => outside (Text.mem_of_mem_lowercase early member)
  simp [Naming.serviceName, small outsideService, small outsideMethod, notDash]

theorem isName_manifestFileName (manifest : Manifest) :
    Path.isName (manifestFileName manifest).toList = true := by
  have letter : 'y' ∈ (manifestFileName manifest).toList := by
    rw [manifestFileName, String.toList_append]
    exact List.mem_append_right _ (by decide)
  have different {part : List Char} (outside : 'y' ∉ part) :
      (manifestFileName manifest).toList ≠ part := by
    intro same
    rw [same] at letter
    exact outside letter
  simp [Path.isName, Path.isIdle, Path.up, different]

/-- A manifest whose name has no slash stands in the directory of its plan under that name. -/
theorem manifestFile_name_of_slashless {manifest : Manifest}
    (slashless : '/' ∉ manifest.name.toList) :
    (manifestFile manifest).name = manifest.name ++ ".yaml" := by
  have whole : '/' ∉ (manifestFileName manifest).toList := by
    simp [manifestFileName, slashless]
  rw [manifestFile]
  exact Path.dot_join_of_isName (isName_manifestFileName manifest) whole

end MethodForge
