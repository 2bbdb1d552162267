/-
Module: MethodForge.Proofs.Generator.Toolchains
Purpose: What depends on the toolchain. Only directives name its programs and its directories, so two
  toolchains give the same generators but for the contents of directives. They answer every request
  with the same error or with files of the same names, and with the same contents unless directives
  were asked for. A plugin that has to go on with a toolchain of its own shows it nowhere else.
Main exports: Parameters.LeavesDirectives, Request.LeavesDirectives, Response.outline,
  AgreeBeyondDirectives, dispatch_outline, dispatch_of_not_leavesDirectives,
  only_directives_depend_on_toolchain
-/
import MethodForge.PluginRun
import MethodForge.Proofs.PlannedAgreement
import MethodForge.Proofs.Schema.Decoding

namespace MethodForge

open Host (Environment)
open Schema (Request)

/-! ### Runs that leave directives -/

/-- Whether a record asks for a run that leaves directives: one of `methods`, or one of `entrypoint` or
`config` on every method. -/
def Parameters.LeavesDirectives (parameters : Parameters) : Prop :=
  parameters.name = "methods" ∨
    (parameters.name = "entrypoint" ∨ parameters.name = "config") ∧ parameters.mode = .every

/-- Whether a request carries a record that asks for such a run. -/
def Schema.Request.LeavesDirectives (request : Request) : Prop :=
  ∃ parameters, Parameters.decode request.parameter = .ok parameters ∧
    parameters.LeavesDirectives

/-! ### Results without the contents of their files -/

/-- What a result shows without the contents of its files: the error, or the names in their order. -/
def outline (generated : Generated) : Except GenerateError (List String) :=
  generated.map (·.map GeneratedFile.name)

/-- What an answer shows without the contents of its files: the error, or the names in their order. -/
def Response.outline : Response → Except String (List String)
  | .failure message => .error message
  | .files generated => .ok (generated.map GeneratedFile.name)

/-- An error is all that its outline shows. -/
theorem eq_of_isFailure {first second : Response} (failed : first.isFailure = true)
    (same : first.outline = second.outline) : first = second := by
  cases first with
  | files _ => cases failed
  | failure message =>
      cases second with
      | files _ => cases same
      | failure other => exact congrArg Response.failure (Except.error.inj same)

theorem outline_dispatchOutput (file : DispatchFile) :
    outline (.ok (dispatchOutput file)) = .ok [DispatchFile.fileName] := rfl

theorem outline_answerOf {name : String} {first second : Generated}
    (same : outline first = outline second) :
    (answerOf name first).outline = (answerOf name second).outline := by
  cases first with
  | error error =>
      cases second with
      | error other =>
          cases same
          rfl
      | ok _ => cases same
  | ok files =>
      cases second with
      | error _ => cases same
      | ok others =>
          have names : files.map GeneratedFile.name = others.map GeneratedFile.name :=
            Except.ok.inj same
          cases files with
          | nil =>
              obtain rfl := List.map_eq_nil_iff.1 names.symm
              rfl
          | cons file rest =>
              cases others with
              | nil => cases names
              | cons other others =>
                  change Except.ok ((file :: rest).map GeneratedFile.name) = _
                  rw [names]
                  rfl

/-! ### Generators for two toolchains -/

/-- Whether two generators of one name differ in nothing but the contents of directives. -/
structure AgreeBeyondDirectives (first second : Generator) : Prop where
  name : first.name = second.name
  outline : ∀ parameters request, MethodForge.outline (first.generate parameters request).value =
    MethodForge.outline (second.generate parameters request).value
  content : ∀ parameters request, parameters.name = first.name → ¬ parameters.LeavesDirectives →
    (first.generate parameters request).value = (second.generate parameters request).value

theorem AgreeBeyondDirectives.refl (generator : Generator) :
    AgreeBeyondDirectives generator generator :=
  ⟨rfl, fun _ _ => rfl, fun _ _ _ _ => rfl⟩

section

variable (first second : Toolchain)

theorem agree_methodsGenerator :
    AgreeBeyondDirectives (methodsGenerator first) (methodsGenerator second) := by
  refine ⟨rfl, fun parameters request => ?_, fun parameters _ named withoutDirectives => ?_⟩
  · simp only [methodsGenerator]
    cases parameters.mode with
    | every => simp only [Log.Logged.value_bind, Log.Logged.value_pure, outline_dispatchOutput]
    | single service method =>
        cases parameters.target request with
        | error error => rfl
        | ok target => simp only [Log.Logged.value_pure, outline_dispatchOutput]
  · exact absurd (.inl named) withoutDirectives

theorem agree_entrypointGenerator :
    AgreeBeyondDirectives (entrypointGenerator first) (entrypointGenerator second) := by
  refine ⟨rfl, fun parameters request => ?_, fun parameters _ named withoutDirectives => ?_⟩
  · simp only [entrypointGenerator]
    cases parameters.mode with
    | every => simp only [Log.Logged.value_bind, Log.Logged.value_pure, outline_dispatchOutput]
    | single service method => rfl
  · simp only [entrypointGenerator]
    cases mode : parameters.mode with
    | every => exact absurd (.inr ⟨.inl named, mode⟩) withoutDirectives
    | single service method => rfl

theorem agree_configGenerator :
    AgreeBeyondDirectives (configGenerator first) (configGenerator second) := by
  refine ⟨rfl, fun parameters request => ?_, fun parameters _ named withoutDirectives => ?_⟩
  · simp only [configGenerator]
    cases parameters.mode with
    | every => simp only [Log.Logged.value_bind, Log.Logged.value_pure, outline_dispatchOutput]
    | single service method => rfl
  · simp only [configGenerator]
    cases mode : parameters.mode with
    | every => exact absurd (.inr ⟨.inr named, mode⟩) withoutDirectives
    | single service method => rfl

/-- The five generators for two toolchains, one beside the other. -/
theorem agree_builtinGenerators :
    List.Forall₂ AgreeBeyondDirectives (builtinGenerators first) (builtinGenerators second) :=
  .cons (agree_methodsGenerator first second) <|
    .cons (.refl scaffoldGenerator) <|
    .cons (agree_entrypointGenerator first second) <|
    .cons (agree_configGenerator first second) <|
    .cons (.refl gatewayGenerator) .nil

end

/-- Under a name, generators side by side are found together. -/
theorem find?_of_agree {generators others : List Generator}
    (agree : List.Forall₂ AgreeBeyondDirectives generators others) (name : String) :
    Option.Rel AgreeBeyondDirectives (generators.find? (·.name == name))
      (others.find? (·.name == name)) := by
  induction agree with
  | nil => exact .none
  | @cons generator other _ _ same _ ih =>
      rw [List.find?_cons, List.find?_cons, ← same.name]
      cases generator.name == name with
      | true => exact .some same
      | false => exact ih

/-! ### Answers -/

section

variable (first second : Toolchain) (request : Request)

/-- What a request is answered with for two toolchains: the same error before any generator is found,
or what two generators give that agree beyond directives. -/
theorem dispatch_cases :
    (dispatch (Registry.builtin first).value request).value =
        (dispatch (Registry.builtin second).value request).value ∨
      ∃ parameters generator other,
        Parameters.decode request.parameter = .ok parameters ∧
          generator.name = parameters.name ∧ AgreeBeyondDirectives generator other ∧
          (dispatch (Registry.builtin first).value request).value =
            answerOf parameters.name (generator.generate parameters request).value ∧
          (dispatch (Registry.builtin second).value request).value =
            answerOf parameters.name (other.generate parameters request).value := by
  cases decoded : Parameters.decode request.parameter with
  | error error =>
      left
      simp only [dispatch, decoded]
  | ok parameters =>
      have found := find?_of_agree (agree_builtinGenerators first second) parameters.name
      rw [← Registry.lookup_builtin, ← Registry.lookup_builtin] at found
      cases known : (Registry.builtin first).value.lookup parameters.name with
      | none =>
          left
          rw [known] at found
          cases unknown : (Registry.builtin second).value.lookup parameters.name with
          | none => simp only [dispatch, decoded, Log.Logged.value_bind, known, unknown]
          | some other =>
              rw [unknown] at found
              cases found
      | some generator =>
          right
          rw [known] at found
          cases knownToo : (Registry.builtin second).value.lookup parameters.name with
          | none =>
              rw [knownToo] at found
              cases found
          | some other =>
              rw [knownToo] at found
              cases found with
              | some agree =>
                  have named : generator.name = parameters.name := by
                    rw [Registry.lookup_builtin] at known
                    simpa using List.find?_some known
                  exact ⟨parameters, generator, other, rfl, named, agree,
                    dispatch_eq_answerOf decoded known, dispatch_eq_answerOf decoded knownToo⟩

/-- Two toolchains give the same error, or files of the same names in the same order. -/
theorem dispatch_outline :
    (dispatch (Registry.builtin first).value request).value.outline =
      (dispatch (Registry.builtin second).value request).value.outline := by
  rcases dispatch_cases first second request with
    same | ⟨parameters, generator, other, -, -, agree, one, two⟩
  · rw [same]
  · rw [one, two]
    exact outline_answerOf (agree.outline parameters request)

variable {request}

/-- Where no directives are asked for, two toolchains give the same answer. -/
theorem dispatch_of_not_leavesDirectives (withoutDirectives : ¬ request.LeavesDirectives) :
    (dispatch (Registry.builtin first).value request).value =
      (dispatch (Registry.builtin second).value request).value := by
  rcases dispatch_cases first second request with
    same | ⟨parameters, generator, other, decoded, named, agree, one, two⟩
  · exact same
  · have without : ¬ parameters.LeavesDirectives := fun leaves =>
      withoutDirectives ⟨parameters, decoded, leaves⟩
    rw [one, two, agree.content parameters request named.symm without]

/-- An error is the same for every toolchain. -/
theorem dispatch_of_isFailure
    (failed : (dispatch (Registry.builtin first).value request).value.isFailure = true) :
    (dispatch (Registry.builtin first).value request).value =
      (dispatch (Registry.builtin second).value request).value :=
  eq_of_isFailure failed (dispatch_outline first second request)

end

/-! ### Plugins -/

/-- A run only sees its registry through the answer to its request. -/
theorem serve_congr {registry other : Registry} {source : Source} {request : Request}
    (decoded : Request.decode source.bytes = .ok request)
    (same : (dispatch registry request).value = (dispatch other request).value) (sink : Sink) :
    (serve registry source sink).value = (serve other source sink).value := by
  unfold serve
  cases source.failure? with
  | some message => rfl
  | none =>
      simp only [Log.Logged.value_bind, decoded, same]

/-- Only directives depend on the toolchain. Two toolchains answer every request with the same error,
or with files of the same names in the same order, and the contents are the same as well unless the
record asks for directives. So whichever toolchain a plugin finds, or falls back on when it finds
none, what it writes and how it ends are what any other toolchain would have led to, be it an error
or files that are no directives. -/
theorem only_directives_depend_on_toolchain (first second : Toolchain) (request : Request) :
    let answer (toolchain : Toolchain) : Response :=
      (dispatch (Registry.builtin toolchain).value request).value
    (answer first).outline = (answer second).outline ∧
      (¬ request.LeavesDirectives → answer first = answer second) ∧
      ∀ (config : Config) (environment : Environment) (source : Source) (sink : Sink),
        Request.decode source.bytes = .ok request →
          ¬ request.LeavesDirectives ∨ (answer first).isFailure = true →
            (runPlugin config environment source sink).value =
              (serve (Registry.builtin first).value source sink).value := by
  intro answer
  refine ⟨dispatch_outline first second request, dispatch_of_not_leavesDirectives first second, ?_⟩
  intro config environment source sink decoded spared
  have same (toolchain : Toolchain) : answer first = answer toolchain := by
    rcases spared with withoutDirectives | failed
    · exact dispatch_of_not_leavesDirectives first toolchain withoutDirectives
    · exact dispatch_of_isFailure first toolchain failed
  have run : (runPlugin config environment source sink).value =
      (serve (Registry.builtin (pluginToolchain config environment).value).value source
        sink).value := rfl
  rw [run]
  exact serve_congr decoded (same _).symm sink

/-- A request for the scaffold of one of two methods. -/
def Schema.Request.forScaffold : Request :=
  { Request.users with
    parameter? := some (Parameters.encode { name := "scaffold", service := "Users", method := "Get" }) }

/-- A plugin without a home directory, which cannot find its toolchain, writes the same scaffold as
one with a toolchain. -/
theorem only_directives_depend_on_toolchain_scaffold :
    let request := Request.forScaffold
    let toolchain := Toolchain.ofRoot "/opt/korpc"
    let config : Config := {}
    let environment : Environment := {}
    let source : Source := { bytes := request.encode }
    config.resolveToolchain environment = .error .homeDirectoryUnavailable ∧
      Request.decode source.bytes = .ok request ∧ ¬ request.LeavesDirectives ∧
      (dispatch (Registry.builtin toolchain).value request).value =
        (dispatch (Registry.builtin (.ofRoot fallbackRoot)).value request).value ∧
      (runPlugin config environment source .all).value =
        (serve (Registry.builtin toolchain).value source .all).value := by
  intro request toolchain config environment source
  have decoded : Request.decode source.bytes = .ok request :=
    Request.decode_encode (by decide) (by decide +kernel)
  have withoutDirectives : ¬ request.LeavesDirectives := by
    rintro ⟨parameters, asked, leaves⟩
    have scaffold : Parameters.decode request.parameter =
        .ok { name := "scaffold", service := "Users", method := "Get" } :=
      Parameters.decode_encode_of_isWhole (by decide)
    cases Except.ok.inj (scaffold.symm.trans asked)
    simp [Parameters.LeavesDirectives] at leaves
  obtain ⟨-, answers, runs⟩ :=
    only_directives_depend_on_toolchain toolchain (.ofRoot fallbackRoot) request
  exact ⟨rfl, decoded, withoutDirectives, answers withoutDirectives,
    runs config environment source .all decoded (.inl withoutDirectives)⟩

end MethodForge
