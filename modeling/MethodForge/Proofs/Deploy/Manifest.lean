/-
Module: MethodForge.Proofs.Deploy.Manifest
Purpose: What a manifest runs. One line of it names the image, whatever the deployment options are, and
  both probes run the same program.
Main exports: Manifest.valuesUnder_image, Manifest.probeLines_isInfix
-/
import MethodForge.Deploy.Manifest
import MethodForge.Proofs.Text.Lines

namespace MethodForge.Deploy.Manifest

open Schema (EnvironmentVariable Resources)
open Text (valuesUnder)

/-- The line that names the image, up to its path. -/
def imageKey : String := "      - image: "

/-- Lines of the environment and of quantities do not name an image. -/
theorem valuesUnder_envLines (env : List EnvironmentVariable) :
    valuesUnder imageKey (envLines env) = [] := by
  refine Text.valuesUnder_eq_nil fun line member => ?_
  unfold envLines at member
  split at member
  · cases member
  · rcases List.mem_cons.1 member with rfl | inVariables
    · decide
    · obtain ⟨envVariable, -, inLines⟩ := List.mem_flatMap.1 inVariables
      simp only [variableLines, List.mem_cons, List.not_mem_nil, or_false] at inLines
      rcases inLines with rfl | rfl
      · simp [imageKey]
      · simp [imageKey]

theorem valuesUnder_quantityLines (heading : String) (quantities : SortedMap String) :
    valuesUnder imageKey (quantityLines heading quantities) = [] := by
  refine Text.valuesUnder_eq_nil fun line member => ?_
  unfold quantityLines at member
  split at member
  · cases member
  · rcases List.mem_cons.1 member with rfl | inEntries
    · simp [imageKey]
    · obtain ⟨entry, -, rfl⟩ := List.mem_map.1 inEntries
      simp [imageKey]

theorem valuesUnder_resourceLines (resources : Resources) :
    valuesUnder imageKey (resourceLines resources) = [] := by
  unfold resourceLines
  split
  · rfl
  · rw [Text.valuesUnder_cons_of_not (by decide), Text.valuesUnder_append,
      valuesUnder_quantityLines, valuesUnder_quantityLines]
    rfl

theorem valuesUnder_numberLine (key : String) (value : Int64)
    (other : ∀ rest : String, ¬ imageKey.toList <+: ("      " ++ key ++ ": " ++ rest).toList) :
    valuesUnder imageKey (numberLine key value) = [] := by
  unfold numberLine
  split
  · rfl
  · exact Text.valuesUnder_eq_nil (by simpa using other _)

theorem valuesUnder_probeLines (manifest : Manifest) (probe : String) :
    valuesUnder imageKey (manifest.probeLines probe) = [] := by
  refine Text.valuesUnder_eq_nil fun line member => ?_
  simp only [probeLines, List.mem_cons, List.not_mem_nil, or_false] at member
  rcases member with rfl | rfl | rfl
  · simp [imageKey]
  · decide
  · simp [imageKey]

/-- The lines before those of the container. -/
def templateLines (manifest : Manifest) : List String :=
  [ "apiVersion: serving.knative.dev/v1alpha1",
    "kind: Service",
    "metadata:",
    "  name: " ++ manifest.name,
    "  namespace: " ++ manifest.kubeNamespace,
    "spec:",
    "  template:",
    "    spec:" ] ++
    (if manifest.deploy.serviceAccount.isEmpty then []
      else ["      serviceAccountName: " ++ manifest.deploy.serviceAccount]) ++
    numberLine "containerConcurrency" manifest.deploy.containerConcurrency ++
    numberLine "timeoutSeconds" manifest.deploy.timeoutSeconds

/-- The lines of the container before its probes. -/
def containerLines (manifest : Manifest) : List String :=
  [ "      containers:",
    imageKey ++ manifest.image,
    "        ports:",
    "        - name: h2c",
    "          containerPort: " ++ toString containerPort ]

/-- The lines behind the probes. -/
def settingLines (manifest : Manifest) : List String :=
  envLines manifest.deploy.env ++
    (match manifest.deploy.resources? with
      | some resources => resourceLines resources
      | none => [])

theorem lines_eq (manifest : Manifest) :
    manifest.lines =
      manifest.templateLines ++ manifest.containerLines ++ manifest.probeLines "readinessProbe" ++
        manifest.probeLines "livenessProbe" ++ manifest.settingLines :=
  List.append_assoc _ _ _

theorem valuesUnder_templateLines (manifest : Manifest) :
    valuesUnder imageKey manifest.templateLines = [] := by
  have account : valuesUnder imageKey
      (if manifest.deploy.serviceAccount.isEmpty then []
        else ["      serviceAccountName: " ++ manifest.deploy.serviceAccount]) = [] := by
    split
    · rfl
    · exact Text.valuesUnder_eq_nil (by simp [imageKey])
  have concurrency := valuesUnder_numberLine "containerConcurrency"
    manifest.deploy.containerConcurrency (by simp [imageKey])
  have timeout := valuesUnder_numberLine "timeoutSeconds" manifest.deploy.timeoutSeconds
    (by simp [imageKey])
  rw [templateLines, Text.valuesUnder_append, Text.valuesUnder_append, Text.valuesUnder_append,
    account, concurrency, timeout, List.append_nil, List.append_nil, List.append_nil]
  exact Text.valuesUnder_eq_nil (by simp [imageKey])

theorem valuesUnder_settingLines (manifest : Manifest) :
    valuesUnder imageKey manifest.settingLines = [] := by
  rw [settingLines, Text.valuesUnder_append, valuesUnder_envLines, List.nil_append]
  split
  · exact valuesUnder_resourceLines _
  · rfl

/-- One line of a manifest names an image. -/
theorem valuesUnder_image (manifest : Manifest) :
    valuesUnder imageKey manifest.lines = [manifest.image] := by
  have container : valuesUnder imageKey manifest.containerLines = [manifest.image] := by
    rw [containerLines, Text.valuesUnder_cons_of_not (by decide), Text.valuesUnder_cons,
      Text.valuesUnder_eq_nil (by simp [imageKey])]
  rw [lines_eq, Text.valuesUnder_append, Text.valuesUnder_append, Text.valuesUnder_append,
    Text.valuesUnder_append, valuesUnder_templateLines, container, valuesUnder_probeLines,
    valuesUnder_probeLines, valuesUnder_settingLines]
  rfl

/-- The lines of a probe stand together in the manifest. -/
theorem probeLines_isInfix (manifest : Manifest) {probe : String}
    (known : probe ∈ ["readinessProbe", "livenessProbe"]) :
    manifest.probeLines probe <:+: manifest.lines := by
  simp only [List.mem_cons, List.not_mem_nil, or_false] at known
  rw [lines_eq]
  rcases known with rfl | rfl
  · rw [List.append_assoc _ (manifest.probeLines "livenessProbe")]
    exact List.infix_append _ _ _
  · exact List.infix_append _ _ _

end MethodForge.Deploy.Manifest
