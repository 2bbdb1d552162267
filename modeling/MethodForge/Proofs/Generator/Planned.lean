/-
Module: MethodForge.Proofs.Generator.Planned
Purpose: Planned runs. A run that is planned for a method names it together with its service, so its
  record is whole, and the run finds a target with these names again. Where no two targets share
  their names, it finds the very target that it was planned for.
Main exports: Target.Named, findTarget?_of_mem, findTarget?_of_nodup, Parameters.target_ok,
  mem_planAll, isWhole_of_mem_planAll, target_of_mem_planAll
-/
import MethodForge.DispatchFile
import MethodForge.Generator.Basic
import Mathlib.Data.List.Nodup

namespace MethodForge

open Schema (Request Target)

/-! ### Finding a target again -/

namespace Schema

/-- Whether a target and its service have names. -/
def Target.Named (target : Target) : Prop :=
  target.serviceName ≠ "" ∧ target.methodName ≠ ""

/-- The names of a target. -/
def Target.names (target : Target) : String × String :=
  (target.serviceName, target.methodName)

instance (target : Target) : Decidable target.Named :=
  inferInstanceAs (Decidable (_ ∧ _))

/-- What is found is a target of the request with the names asked for. -/
theorem names_of_findTarget? {request : Request} {service method : String} {target : Target}
    (found : request.findTarget? service method = some target) :
    target ∈ request.targets ∧ target.serviceName = service ∧ target.methodName = method := by
  rw [Request.findTarget?] at found
  have named := List.find?_some found
  refine ⟨List.mem_of_find?_eq_some found, ?_⟩
  simpa [Target.isNamed] using named

/-- Under the names of a target, a target is found. -/
theorem findTarget?_of_mem {request : Request} {target : Target}
    (member : target ∈ request.targets) :
    ∃ found, request.findTarget? target.serviceName target.methodName = some found := by
  have named : target.isNamed target.serviceName target.methodName = true := by
    simp [Target.isNamed]
  exact Option.isSome_iff_exists.1 (List.find?_isSome.2 ⟨target, member, named⟩)

/-- Where no two targets share their names, the target found is the one that has them. -/
theorem findTarget?_of_nodup {request : Request} {target : Target}
    (distinct : (request.targets.map Target.names).Nodup) (member : target ∈ request.targets) :
    request.findTarget? target.serviceName target.methodName = some target := by
  obtain ⟨found, search⟩ := findTarget?_of_mem member
  obtain ⟨inRequest, service, method⟩ := names_of_findTarget? search
  have same : found.names = target.names := by rw [Target.names, service, method, Target.names]
  rw [search, List.inj_on_of_nodup_map distinct inRequest member same]

end Schema

/-! ### Records that name a method -/

namespace Parameters

variable {service method : String}

theorem mode_withTarget (parameters : Parameters) (named : service ≠ "") (name nested : String) :
    (parameters.withTarget name service method nested).mode = .single service method := by
  simp [mode, withTarget, named]

theorem isWhole_withTarget (parameters : Parameters) (serviceNamed : service ≠ "")
    (methodNamed : method ≠ "") (name nested : String) :
    (parameters.withTarget name service method nested).isWhole = true := by
  have service : service.isEmpty = false := by simpa using serviceNamed
  have method : method.isEmpty = false := by simpa using methodNamed
  simp only [isWhole, withTarget, service, method, beq_self_eq_true]

/-- A record that names a method finds what the request finds. -/
theorem target_withTarget (parameters : Parameters) {request : Request} {target : Target}
    (named : service ≠ "") (found : request.findTarget? service method = some target)
    (name nested : String) :
    (parameters.withTarget name service method nested).target request = .ok target := by
  rw [Parameters.target, mode_withTarget parameters named]
  simp only [found]

/-- A run that has found its target has been asked for a single method, and for one of that name. -/
theorem target_ok {parameters : Parameters} {request : Request} {target : Target}
    (found : parameters.target request = .ok target) :
    parameters.mode = .single parameters.service parameters.method ∧
      target ∈ request.targets ∧ target.serviceName = parameters.service ∧
        target.methodName = parameters.method := by
  unfold Parameters.target at found
  cases asked : parameters.mode with
  | every =>
      rw [asked] at found
      cases found
  | single service method =>
      have names : Mode.single parameters.service parameters.method = .single service method := by
        rw [← asked, mode]
        split
        · rename_i nothing
          rw [mode, if_pos nothing] at asked
          cases asked
        · rfl
      rw [asked] at found
      cases names
      cases search : request.findTarget? parameters.service parameters.method with
      | none =>
          simp only [search] at found
          cases found
      | some first =>
          simp only [search] at found
          cases found
          exact ⟨rfl, Schema.names_of_findTarget? search⟩

end Parameters

/-! ### Planned runs -/

section

variable {name : String} {parameters : Parameters} {request : Request} {fanout : Fanout}
  {run : PlannedRun}

/-- The record of a planned run names its target. -/
theorem planTarget_parameters (name : String) (parameters : Parameters) (fanout : Fanout)
    (target : Target) :
    ∃ nested, (planTarget name parameters fanout target).parameters =
      parameters.withTarget name target.serviceName target.methodName nested := by
  cases fanout with
  | perMethod => exact ⟨_, rfl⟩
  | shared => exact ⟨_, rfl⟩

theorem mem_planAll (member : run ∈ planAll name parameters request fanout) :
    ∃ target ∈ request.targets, planTarget name parameters fanout target = run :=
  List.mem_map.1 member

theorem name_of_mem_planAll (member : run ∈ planAll name parameters request fanout) :
    run.parameters.name = name := by
  obtain ⟨target, -, rfl⟩ := mem_planAll member
  obtain ⟨nested, record⟩ := planTarget_parameters name parameters fanout target
  rw [record]
  rfl

/-- The record of a planned run is whole. -/
theorem isWhole_of_mem_planAll (named : ∀ target ∈ request.targets, target.Named)
    (member : run ∈ planAll name parameters request fanout) : run.parameters.isWhole = true := by
  obtain ⟨target, inRequest, rfl⟩ := mem_planAll member
  obtain ⟨nested, record⟩ := planTarget_parameters name parameters fanout target
  obtain ⟨serviceNamed, methodNamed⟩ := named target inRequest
  rw [record]
  exact parameters.isWhole_withTarget serviceNamed methodNamed name nested

/-- A planned run finds a target. -/
theorem target_of_mem_planAll (named : ∀ target ∈ request.targets, target.Named)
    (member : run ∈ planAll name parameters request fanout) :
    ∃ target, run.parameters.target request = .ok target := by
  obtain ⟨target, inRequest, rfl⟩ := mem_planAll member
  obtain ⟨nested, record⟩ := planTarget_parameters name parameters fanout target
  obtain ⟨found, search⟩ := Schema.findTarget?_of_mem inRequest
  rw [record]
  exact ⟨found, parameters.target_withTarget (named target inRequest).1 search name nested⟩

end

/-- A request for one file, which declares a service of two methods. -/
def Schema.Request.users : Request where
  fileNames := ["acme/users.proto"]
  files :=
    [(File.named "acme/users.proto" "acme").withService
      (.named "Users"
        [.named "Get" ".acme.Key" ".acme.User", .named "List" ".acme.Page" ".acme.User"])]

end MethodForge
