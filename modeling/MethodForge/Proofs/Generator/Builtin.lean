/-
Module: MethodForge.Proofs.Generator.Builtin
Purpose: What each of the five generators gives. A run on every method gives one file of directives,
  and a run on a single method that is found gives one file as well. No generator looks at the text
  form of the record in the request; it only goes by the record that it is handed.
Main exports: methodsGenerator_every, methodsGenerator_single, entrypointGenerator_every,
  entrypointGenerator_single, configGenerator_every, configGenerator_single,
  scaffoldGenerator_single, generate_single, generate_without_target, generate_one,
  generate_with_parameter
-/
import MethodForge.Generator.Builtin
import MethodForge.Proofs.Generator.Planned

namespace MethodForge

open Go (EntrypointFile ScaffoldFile)
open Schema (Request Target)

variable {toolchain : Toolchain} {parameters : Parameters} {request : Request} {target : Target}

/-! ### Runs on every method -/

section

variable (every : parameters.mode = .every)
include every

theorem methodsGenerator_every :
    ((methodsGenerator toolchain).generate parameters request).value =
      .ok (dispatchOutput
        (dispatchToAll "methods" "methods" .perMethod true toolchain parameters request)) := by
  simp only [methodsGenerator, every]
  rfl

theorem entrypointGenerator_every :
    ((entrypointGenerator toolchain).generate parameters request).value =
      .ok (dispatchOutput
        (dispatchToAll "entrypoint" "entrypoint" .perMethod true toolchain parameters request)) := by
  simp only [entrypointGenerator, every]
  rfl

theorem configGenerator_every :
    ((configGenerator toolchain).generate parameters request).value =
      .ok (dispatchOutput
        (dispatchToAll "config" "config" .shared false toolchain parameters request)) := by
  simp only [configGenerator, every]
  rfl

end

/-! ### Runs on a single method -/

section

variable (found : parameters.target request = .ok target)
include found

theorem methodsGenerator_single :
    ((methodsGenerator toolchain).generate parameters request).value =
      .ok (dispatchOutput (scaffoldDispatch toolchain parameters request target)) := by
  simp only [methodsGenerator, (Parameters.target_ok found).1, found]
  rfl

theorem scaffoldGenerator_single :
    (scaffoldGenerator.generate parameters request).value =
      .ok [⟨goFileName, Text.tidy (ScaffoldFile.ofTarget parameters request target).text⟩] := by
  simp only [scaffoldGenerator, found]
  rfl

theorem entrypointGenerator_single :
    ((entrypointGenerator toolchain).generate parameters request).value =
      .ok [⟨goFileName, Text.tidy (EntrypointFile.ofTarget parameters request target).text⟩] := by
  simp only [entrypointGenerator, (Parameters.target_ok found).1, found]
  rfl

theorem configGenerator_single :
    ((configGenerator toolchain).generate parameters request).value =
      .ok [⟨manifestFileName (manifestOf parameters target),
        (manifestOf parameters target).text⟩] := by
  simp only [configGenerator, (Parameters.target_ok found).1, found]
  rfl

/-- A run on a single method that is found gives exactly one file, whatever the generator. -/
theorem generate_single {generator : Generator} (member : generator ∈ builtinGenerators toolchain) :
    ∃ file, (generator.generate parameters request).value = .ok [file] := by
  simp only [builtinGenerators, List.mem_cons, List.not_mem_nil, or_false] at member
  rcases member with rfl | rfl | rfl | rfl | rfl
  · exact ⟨_, methodsGenerator_single found⟩
  · exact ⟨_, scaffoldGenerator_single found⟩
  · exact ⟨_, entrypointGenerator_single found⟩
  · exact ⟨_, configGenerator_single found⟩
  · exact ⟨_, rfl⟩

end

/-- A run that finds no single method gives one file of directives or of rules, or it fails. -/
theorem generate_without_target {error : GenerateError}
    (failed : parameters.target request = .error error) {generator : Generator}
    (member : generator ∈ builtinGenerators toolchain) :
    (∃ file, (generator.generate parameters request).value = .ok [file]) ∨
      (generator.generate parameters request).value = .error error := by
  simp only [builtinGenerators, List.mem_cons, List.not_mem_nil, or_false] at member
  rcases member with rfl | rfl | rfl | rfl | rfl
  · cases mode : parameters.mode with
    | every => exact .inl ⟨_, methodsGenerator_every mode⟩
    | single service method =>
        right
        simp only [methodsGenerator, mode, failed]
        rfl
  · right
    simp only [scaffoldGenerator, failed]
    rfl
  · cases mode : parameters.mode with
    | every => exact .inl ⟨_, entrypointGenerator_every mode⟩
    | single service method =>
        right
        simp only [entrypointGenerator, mode, failed]
        rfl
  · cases mode : parameters.mode with
    | every => exact .inl ⟨_, configGenerator_every mode⟩
    | single service method =>
        right
        simp only [configGenerator, mode, failed]
        rfl
  · exact .inl ⟨_, rfl⟩

/-- A generator that gives files gives exactly one, whatever it is run on. -/
theorem generate_one {generator : Generator} (member : generator ∈ builtinGenerators toolchain)
    {files : List GeneratedFile}
    (generated : (generator.generate parameters request).value = .ok files) :
    ∃ file, files = [file] := by
  cases found : parameters.target request with
  | ok target =>
      obtain ⟨file, one⟩ := generate_single found member
      rw [one] at generated
      cases generated
      exact ⟨file, rfl⟩
  | error error =>
      rcases generate_without_target found member with ⟨file, one⟩ | failed
      · rw [one] at generated
        cases generated
        exact ⟨file, rfl⟩
      · rw [failed] at generated
        cases generated

/-- The text form of the record in a request does not matter to a generator. -/
theorem generate_with_parameter {generator : Generator}
    (member : generator ∈ builtinGenerators toolchain) (parameter? : Option String) :
    generator.generate parameters { request with parameter? } =
      generator.generate parameters request := by
  simp only [builtinGenerators, List.mem_cons, List.not_mem_nil, or_false] at member
  rcases member with rfl | rfl | rfl | rfl | rfl
  · rfl
  · rfl
  · rfl
  · rfl
  · rfl

end MethodForge
