/-
Module: MethodForge.Proofs.PlannedAgreement
Purpose: A planned run gives the same whichever way it is made: at once, through a registry that is in
  memory, or later, when a directive hands the text form of its record to the protocol. The record
  comes back from its text form, the registry finds the same generator under its name, and the
  generator finds the same method, so the files are the same too; a run made at once only puts the
  directory of the plan before their names.
Main exports: answerOf, dispatch_eq_answerOf, dispatch_of_decode, renderOne_of_lookup,
  dispatch_agrees_with_renderOne
-/
import MethodForge.Proofs.Generator.Builtin
import MethodForge.Proofs.Parameters.RoundTrip
import MethodForge.Proofs.Registry
import MethodForge.Protocol

namespace MethodForge

open Schema (Request)

variable {registry : Registry} {generator : Generator} {parameters : Parameters}
  {request : Request} {file : GeneratedFile}

/-- The answer that the result of a generator becomes. -/
def answerOf (name : String) : Generated → Response
  | .error error => .failure error.message
  | .ok [] => .failure s!"generator {Text.quoted name} produced no files"
  | .ok (first :: rest) => .files (first :: rest)

/-- A request whose record asks for a generator is answered with what the generator gives. -/
theorem dispatch_eq_answerOf (decoded : Parameters.decode request.parameter = .ok parameters)
    (known : registry.lookup parameters.name = some generator) :
    (dispatch registry request).value =
      answerOf parameters.name (generator.generate parameters request).value := by
  rw [dispatch, decoded]
  simp only [Log.Logged.value_bind, known]
  cases (generator.generate parameters request).value with
  | error error => rfl
  | ok files =>
      cases files with
      | nil => rfl
      | cons first rest => rfl

/-- A request whose record asks for a generator with one file is answered with that file. -/
theorem dispatch_of_decode (decoded : Parameters.decode request.parameter = .ok parameters)
    (known : registry.lookup parameters.name = some generator)
    (generated : (generator.generate parameters request).value = .ok [file]) :
    (dispatch registry request).value = .files [file] := by
  rw [dispatch_eq_answerOf decoded known, generated]
  rfl

/-- A planned run whose generator gives one file puts the directory of the plan before its name. -/
theorem renderOne_of_lookup {run : PlannedRun}
    (known : registry.lookup run.parameters.name = some generator)
    (generated : (generator.generate run.parameters request).value = .ok [file]) :
    (registry.renderOne run request).value =
      .ok [⟨Path.join [run.directory, file.name], file.content⟩] := by
  rw [Registry.renderOne]
  simp only [known, Log.Logged.value_bind, generated]
  rfl

/-- Made at once or through the protocol, a planned run succeeds with one file of the same content,
and the names of the file differ by the directory of the plan. -/
theorem dispatch_agrees_with_renderOne {toolchain : Toolchain} {start filled : Registry}
    (granted : (start.claimAll (builtinGenerators toolchain)).value = (filled, none))
    (named : ∀ target ∈ request.targets, target.Named)
    (builtin : generator ∈ builtinGenerators toolchain) {fanout : Fanout} {run : PlannedRun}
    (planned : run ∈ planAll generator.name parameters request fanout) :
    ∃ file : GeneratedFile,
      (dispatch filled { request with parameter? := some run.parameters.encode }).value =
          .files [file] ∧
        (filled.renderOne run request).value =
          .ok [⟨Path.join [run.directory, file.name], file.content⟩] := by
  have whole : run.parameters.isWhole = true := isWhole_of_mem_planAll named planned
  have decoded : Parameters.decode run.parameters.encode = .ok run.parameters :=
    Parameters.decode_encode_of_isWhole whole
  have known : filled.lookup run.parameters.name = some generator := by
    rw [name_of_mem_planAll planned]
    exact Registry.lookup_claimAll granted builtin
  obtain ⟨target, found⟩ := target_of_mem_planAll named planned
  obtain ⟨file, generated⟩ := generate_single found builtin
  refine ⟨file, dispatch_of_decode decoded known ?_, renderOne_of_lookup known generated⟩
  rw [generate_with_parameter builtin, generated]

/-- The planned program of one of two methods, through the registry of the five generators. -/
theorem dispatch_agrees_with_renderOne_users :
    let run := planTarget "entrypoint" {} .perMethod Request.users.targets[1]
    ∃ file : GeneratedFile,
      (dispatch (Registry.builtin default).value
          { Request.users with parameter? := some run.parameters.encode }).value =
          .files [file] ∧
        ((Registry.builtin default).value.renderOne run Request.users).value =
          .ok [⟨Path.join [run.directory, file.name], file.content⟩] := by
  intro run
  have builtin : entrypointGenerator default ∈ builtinGenerators default := by
    simp [builtinGenerators]
  have planned : run ∈ planAll "entrypoint" {} Request.users .perMethod :=
    List.mem_map_of_mem (List.getElem_mem _)
  exact dispatch_agrees_with_renderOne (Registry.claimAll_builtin default) (by decide) builtin
    planned

end MethodForge
