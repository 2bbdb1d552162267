/-
Module: MethodForge.Proofs.Generator.Coverage
Purpose: A plan covers the methods of a request. Each method has a place: that of its file among the
  parsed files, that of its service in the file, and its own in the service. The methods declared in
  files to generate for are planned once each, in the order of their places. A run that names a
  method finds the one at the first of the places that have its names, and it finds none exactly
  when no place has them.
Main exports: Place, Request.Declares, Request.placedTargets, Request.DeclaresFirst, PlansFor,
  mem_placedTargets, pairwise_placedTargets, declaresFirst_of_findTarget?, planAll_covers
-/
import MethodForge.Proofs.Generator.Planned

namespace MethodForge

open Schema (File Request Service Target)

namespace Schema

/-! ### Places of methods -/

/-- Where a method is declared, counted from the front. -/
structure Place where
  /-- The place of the file among the parsed files. -/
  file : Nat
  /-- The place of the service in the file. -/
  service : Nat
  /-- The place of the method in the service. -/
  method : Nat
deriving Repr, DecidableEq

/-- Whether a place comes before another one. -/
def Place.Before (first second : Place) : Prop :=
  first.file < second.file ∨
    first.file = second.file ∧
      (first.service < second.service ∨
        first.service = second.service ∧ first.method < second.method)

/-- Whether a request declares a target at a place, in a file to generate for. -/
structure Request.Declares (request : Request) (place : Place) (target : Target) : Prop where
  generated : target.file.name ∈ request.fileNames
  file : request.files[place.file]? = some target.file
  service : target.file.services[place.service]? = some target.service
  method : target.service.methods[place.method]? = some target.method

/-- Whether a target is the first one that a request declares under the given names. -/
def Request.DeclaresFirst (request : Request) (service method : String) (target : Target) : Prop :=
  ∃ place, request.Declares place target ∧ target.names = (service, method) ∧
    ∀ otherPlace other, request.Declares otherPlace other → other.names = (service, method) →
      otherPlace = place ∨ place.Before otherPlace

/-! ### Methods with their places -/

/-- The targets of a file with their places, where the place of the file is given. -/
def File.placedTargets (file : File) (place : Nat) : List (Place × Target) :=
  file.services.zipIdx.flatMap fun (service, index) =>
    service.methods.zipIdx.map fun (method, last) =>
      (⟨place, index, last⟩, ⟨file, service, method⟩)

/-- The targets of a request with their places. -/
def Request.placedTargets (request : Request) : List (Place × Target) :=
  (request.files.zipIdx.filter fun (file, _) => request.isGenerated file).flatMap
    fun (file, place) => file.placedTargets place

/-- What is made of the kept entries alone does not depend on their places. -/
theorem flatMap_filter_zipIdx {α β : Type} (entries : List α) (keeps : α → Bool)
    (parts : α → List β) :
    (entries.zipIdx.filter fun entry => keeps entry.1).flatMap (fun entry => parts entry.1) =
      (entries.filter keeps).flatMap parts := by
  have kept : (entries.zipIdx.filter fun entry => keeps entry.1).map Prod.fst =
      entries.filter keeps := by
    rw [← Function.comp_def, ← List.filter_map, List.zipIdx_map_fst]
  rw [← kept, List.flatMap_map]

theorem File.map_snd_placedTargets (file : File) (place : Nat) :
    (file.placedTargets place).map Prod.snd = file.targets := by
  have each (service : Service) (index : Nat) :
      (service.methods.zipIdx.map fun (method, last) =>
          ((⟨place, index, last⟩, ⟨file, service, method⟩) : Place × Target)).map Prod.snd =
        service.methods.map fun method => ⟨file, service, method⟩ := by
    rw [List.map_map]
    conv_rhs => rw [← List.zipIdx_map_fst 0 service.methods, List.map_map]
    rfl
  rw [placedTargets, List.map_flatMap]
  simp only [each]
  conv_rhs => rw [targets, ← List.zipIdx_map_fst 0 file.services, List.flatMap_map]

/-- The targets of a request stand in the order of their places. -/
theorem map_snd_placedTargets (request : Request) :
    request.placedTargets.map Prod.snd = request.targets := by
  rw [Request.placedTargets, List.map_flatMap]
  simp only [File.map_snd_placedTargets]
  exact flatMap_filter_zipIdx request.files request.isGenerated File.targets

theorem mem_placedTargets {request : Request} {place : Place} {target : Target} :
    (place, target) ∈ request.placedTargets ↔ request.Declares place target := by
  constructor
  · intro member
    obtain ⟨⟨file, first⟩, inFiles, inFile⟩ := List.mem_flatMap.1 member
    obtain ⟨parsed, generated⟩ := List.mem_filter.1 inFiles
    obtain ⟨⟨service, second⟩, inServices, inService⟩ := List.mem_flatMap.1 inFile
    obtain ⟨⟨method, third⟩, inMethods, same⟩ := List.mem_map.1 inService
    cases same
    exact ⟨List.contains_iff_mem.1 generated, List.mem_zipIdx_iff_getElem?.1 parsed,
      List.mem_zipIdx_iff_getElem?.1 inServices, List.mem_zipIdx_iff_getElem?.1 inMethods⟩
  · intro declares
    refine List.mem_flatMap.2 ⟨(target.file, place.file), ?_, ?_⟩
    · exact List.mem_filter.2 ⟨List.mem_zipIdx_iff_getElem?.2 declares.file,
        List.contains_iff_mem.2 declares.generated⟩
    · refine List.mem_flatMap.2 ⟨(target.service, place.service), ?_, ?_⟩
      · exact List.mem_zipIdx_iff_getElem?.2 declares.service
      · refine List.mem_map.2 ⟨(target.method, place.method), ?_, rfl⟩
        exact List.mem_zipIdx_iff_getElem?.2 declares.method

theorem pairwise_zipIdx {α : Type} (entries : List α) :
    entries.zipIdx.Pairwise fun first second => first.2 < second.2 := by
  rw [← List.pairwise_map, List.zipIdx_map_snd]
  exact List.pairwise_lt_range'

/-- The methods stand in the order of their places, each with a place of its own. -/
theorem pairwise_placedTargets (request : Request) :
    request.placedTargets.Pairwise fun first second => first.1.Before second.1 := by
  have inFile (file : File) (place : Nat) :
      (file.placedTargets place).Pairwise fun first second => first.1.Before second.1 := by
    rw [File.placedTargets, List.pairwise_flatMap]
    constructor
    · intro service _
      rw [List.pairwise_map]
      exact (pairwise_zipIdx _).imp fun before => .inr ⟨rfl, .inr ⟨rfl, before⟩⟩
    · refine (pairwise_zipIdx _).imp fun before first inFirst second inSecond => ?_
      obtain ⟨_, -, rfl⟩ := List.mem_map.1 inFirst
      obtain ⟨_, -, rfl⟩ := List.mem_map.1 inSecond
      exact .inr ⟨rfl, .inl before⟩
  have placed {file : File} {place : Nat} {entry : Place × Target}
      (member : entry ∈ file.placedTargets place) : entry.1.file = place := by
    obtain ⟨_, -, inService⟩ := List.mem_flatMap.1 member
    obtain ⟨_, -, rfl⟩ := List.mem_map.1 inService
    rfl
  rw [Request.placedTargets, List.pairwise_flatMap]
  constructor
  · intro file _
    exact inFile file.1 file.2
  · refine ((pairwise_zipIdx _).filter _).imp fun before first inFirst second inSecond => ?_
    left
    rw [placed inFirst, placed inSecond]
    exact before

/-! ### Finding a method by its names -/

theorem Target.isNamed_iff {target : Target} {service method : String} :
    target.isNamed service method = true ↔ target.names = (service, method) := by
  simp [Target.isNamed, Target.names]

/-- What is found is declared at the first of the places that have the names asked for. -/
theorem declaresFirst_of_findTarget? {request : Request} {service method : String}
    {target : Target} (found : request.findTarget? service method = some target) :
    request.DeclaresFirst service method target := by
  rw [Request.findTarget?, ← map_snd_placedTargets, List.find?_map, Option.map_eq_some_iff]
    at found
  obtain ⟨⟨place, target⟩, search, rfl⟩ := found
  obtain ⟨has, before, after, order, passedOver⟩ := List.find?_eq_some_iff_append.1 search
  have ascending := pairwise_placedTargets request
  rw [order] at ascending
  refine ⟨place, mem_placedTargets.1 (List.mem_of_find?_eq_some search), Target.isNamed_iff.1 has, ?_⟩
  intro otherPlace other declares same
  have member := mem_placedTargets.2 declares
  rw [order, List.mem_append, List.mem_cons] at member
  rcases member with earlier | here | later
  · -- A place before the first one would have been found.
    have skipped := passedOver _ earlier
    simp [Target.isNamed_iff.2 same] at skipped
  · left
    exact congrArg Prod.fst here
  · right
    exact (List.pairwise_cons.1 (List.pairwise_append.1 ascending).2.1).1 _ later

/-- A target of a request is what it declares at some place. -/
theorem mem_targets_iff {request : Request} {target : Target} :
    target ∈ request.targets ↔ ∃ place, request.Declares place target := by
  simp [← map_snd_placedTargets, mem_placedTargets]

theorem findTarget?_eq_none_iff {request : Request} {service method : String} :
    request.findTarget? service method = none ↔
      ¬ ∃ place target, request.Declares place target ∧ target.names = (service, method) := by
  rw [Request.findTarget?, List.find?_eq_none]
  simp only [Target.isNamed_iff, mem_targets_iff]
  constructor
  · rintro absent ⟨place, target, declares, same⟩
    exact absent target ⟨place, declares⟩ same
  · rintro absent target ⟨place, declares⟩ same
    exact absent ⟨place, target, declares, same⟩

/-- Only which names are in the list of files to generate for matters, not their order or how often
they are in it. -/
theorem targets_withFileNames {request : Request} {fileNames : List String}
    (same : ∀ name, name ∈ fileNames ↔ name ∈ request.fileNames) :
    ({ request with fileNames } : Request).targets = request.targets := by
  have generated : ({ request with fileNames } : Request).isGenerated = request.isGenerated := by
    funext file
    rw [Request.isGenerated, Request.isGenerated, Bool.eq_iff_iff, List.contains_iff_mem,
      List.contains_iff_mem, same]
  rw [Request.targets, Request.generatedFiles, generated]
  rfl

end Schema

/-! ### Runs that name a method -/

namespace Parameters

theorem mode_of_names {parameters : Parameters}
    (named : ¬ (parameters.service = "" ∧ parameters.method = "")) :
    parameters.mode = .single parameters.service parameters.method := by
  rw [mode, if_neg]
  simpa using named

theorem target_of_names {parameters : Parameters} {request : Request} {target : Target}
    (named : ¬ (parameters.service = "" ∧ parameters.method = ""))
    (found : request.findTarget? parameters.service parameters.method = some target) :
    parameters.target request = .ok target := by
  rw [Parameters.target, mode_of_names named]
  simp only [found]

/-- A run that names a method fails exactly where no place has its names. -/
theorem target_eq_notFound_iff {parameters : Parameters} {request : Request}
    (named : ¬ (parameters.service = "" ∧ parameters.method = "")) :
    parameters.target request = .error (.notFound parameters.service parameters.method) ↔
      ¬ ∃ place target, request.Declares place target ∧
        target.names = (parameters.service, parameters.method) := by
  rw [← Schema.findTarget?_eq_none_iff]
  cases search : request.findTarget? parameters.service parameters.method with
  | none => simp [Parameters.target, mode_of_names named, search]
  | some target => simp [target_of_names named search]

end Parameters

/-- What a run has that is planned for a target, and what it finds. -/
structure PlansFor (name : String) (parameters : Parameters) (request : Request) (target : Target)
    (run : PlannedRun) : Prop where
  name : run.parameters.name = name
  names : (run.parameters.service, run.parameters.method) = target.names
  base : run.parameters.base = parameters.base
  genDir : run.parameters.genDir = parameters.genDir
  methodsDir : run.parameters.methodsDir = parameters.methodsDir
  domain : run.parameters.domain = parameters.domain
  kubeNamespace : run.parameters.kubeNamespace = parameters.kubeNamespace
  /-- The run finds the first method with the names of the target. -/
  finds : target.Named → ∃ found, run.parameters.target request = .ok found ∧
    request.DeclaresFirst target.serviceName target.methodName found
  /-- Where no two methods share their names, that is the target itself. -/
  findsOwn : target.Named → (request.targets.map Target.names).Nodup →
    run.parameters.target request = .ok target

theorem plansFor_planTarget (name : String) (parameters : Parameters) (fanout : Fanout)
    {request : Request} {target : Target} (member : target ∈ request.targets) :
    PlansFor name parameters request target (planTarget name parameters fanout target) := by
  obtain ⟨nested, record⟩ := planTarget_parameters name parameters fanout target
  obtain ⟨found, search⟩ := Schema.findTarget?_of_mem member
  constructor
  case finds =>
    rw [record]
    intro named
    exact ⟨found, parameters.target_withTarget named.1 search name nested,
      Schema.declaresFirst_of_findTarget? search⟩
  case findsOwn =>
    rw [record]
    intro named distinct
    exact parameters.target_withTarget named.1 (Schema.findTarget?_of_nodup distinct member) name
      nested
  all_goals
    rw [record]
    rfl

/-- A plan has one run for each method that is declared in a file to generate for, in the order of the
places, whatever the order of the files to generate for. A planned run finds the first method with
the names of its own, and no run that names a method fails unless there is none of that name. -/
theorem planAll_covers (request : Request) :
    (∀ place target, (place, target) ∈ request.placedTargets ↔ request.Declares place target) ∧
      request.placedTargets.Pairwise (fun first second => first.1.Before second.1) ∧
      (∀ (name : String) (parameters : Parameters) (fanout : Fanout),
        List.Forall₂ (fun entry run => PlansFor name parameters request entry.2 run)
            request.placedTargets (planAll name parameters request fanout) ∧
          ∀ fileNames, (∀ file, file ∈ fileNames ↔ file ∈ request.fileNames) →
            planAll name parameters { request with fileNames } fanout =
              planAll name parameters request fanout) ∧
      ∀ parameters : Parameters, ¬ (parameters.service = "" ∧ parameters.method = "") →
        (parameters.target request = .error (.notFound parameters.service parameters.method) ↔
          ¬ ∃ place target, request.Declares place target ∧
            target.names = (parameters.service, parameters.method)) := by
  refine ⟨fun _ _ => Schema.mem_placedTargets, Schema.pairwise_placedTargets request, ?_,
    fun _ named => Parameters.target_eq_notFound_iff named⟩
  intro name parameters fanout
  constructor
  · rw [planAll, ← Schema.map_snd_placedTargets, List.map_map, List.forall₂_map_right_iff,
      List.forall₂_same]
    intro entry member
    refine plansFor_planTarget name parameters fanout ?_
    exact Schema.mem_targets_iff.2 ⟨entry.1, Schema.mem_placedTargets.1 member⟩
  · intro fileNames same
    rw [planAll, planAll, Schema.targets_withFileNames same]

/-- A request that names a file twice and in which several services declare a method of one name, one
of them in a file that nothing is generated for. -/
def Schema.Request.repeated : Request where
  fileNames := ["acme/more.proto", "acme/users.proto", "acme/more.proto"]
  files :=
    [ (File.named "acme/old.proto" "acme").withService
        (.named "Users" [.named "Get" ".acme.Key" ".acme.User"]),
      (File.named "acme/users.proto" "acme").withService
        (.named "Users" [.named "Get" ".acme.Key" ".acme.User"]),
      ((File.named "acme/more.proto" "acme.more").withService
          (.named "Users" [.named "List" ".acme.Page" ".acme.User",
            .named "Get" ".acme.Key" ".acme.User"])).withService
        (.named "Users" [.named "Get" ".acme.Key" ".acme.User"]) ]

/-- Four methods are planned of three files, and those of one name find the first of them. Where names
are distinct, each finds its own. -/
theorem planAll_covers_repeated :
    let request := Request.repeated
    request.placedTargets.map Prod.fst = [⟨1, 0, 0⟩, ⟨2, 0, 0⟩, ⟨2, 0, 1⟩, ⟨2, 1, 0⟩] ∧
      List.Forall₂ (fun entry run => ∃ found, run.parameters.target request = .ok found ∧
          request.DeclaresFirst entry.2.serviceName entry.2.methodName found)
        request.placedTargets (planAll "config" {} request .shared) ∧
      planAll "config" {} { request with fileNames := ["acme/users.proto", "acme/more.proto"] }
          .shared = planAll "config" {} request .shared ∧
      ({ service := "Users", method := "Drop" } : Parameters).target request =
        .error (.notFound "Users" "Drop") ∧
      List.Forall₂ (fun entry run => run.parameters.target Request.users = .ok entry.2)
        Request.users.placedTargets (planAll "config" {} Request.users .shared) := by
  intro request
  obtain ⟨-, -, plans, fails⟩ := planAll_covers request
  obtain ⟨-, -, plansUsers, -⟩ := planAll_covers Request.users
  have named : ∀ entry ∈ request.placedTargets, entry.2.Named := by decide
  have namedUsers : ∀ entry ∈ Request.users.placedTargets, entry.2.Named := by decide
  have distinct : (Request.users.targets.map Target.names).Nodup := by decide
  have absent : ¬ ∃ place target, request.Declares place target ∧
      target.names = ("Users", "Drop") := by
    rintro ⟨place, target, declares, same⟩
    have others : ∀ target ∈ request.targets, target.names ≠ ("Users", "Drop") := by decide
    exact others target (Schema.mem_targets_iff.2 ⟨place, declares⟩) same
  refine ⟨rfl, ?_, (plans "config" {} .shared).2 _ (by simp [request, Request.repeated]), ?_, ?_⟩
  · obtain ⟨length, each⟩ := List.forall₂_iff_zip.1 (plans "config" {} .shared).1
    refine List.forall₂_iff_zip.2 ⟨length, fun pair => ?_⟩
    exact (each pair).finds (named _ (List.of_mem_zip pair).1)
  · exact (fails { service := "Users", method := "Drop" } (by decide)).2 absent
  · obtain ⟨length, each⟩ := List.forall₂_iff_zip.1 (plansUsers "config" {} .shared).1
    refine List.forall₂_iff_zip.2 ⟨length, fun pair => ?_⟩
    exact (each pair).findsOwn (namedUsers _ (List.of_mem_zip pair).1) distinct

end MethodForge
