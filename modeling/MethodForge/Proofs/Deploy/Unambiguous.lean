/-
Module: MethodForge.Proofs.Deploy.Unambiguous
Purpose: A manifest tells apart everything it is written from. Its sections follow each other without
  marks between them, but each one starts with a line that no later section has, so two manifests
  with the same lines are compared section by section from the front. What is quoted stays on its
  line, whatever it holds.
Main exports: Manifest.normal, Manifest.normal_eq_of_lines_eq, Manifest.Closed,
  Manifest.closed_of_mem_lines, manifest_text_eq_iff
-/
import MethodForge.Proofs.Deploy.Manifest
import MethodForge.Proofs.Deploy.Reading
import MethodForge.Proofs.JsonText.StringLiteral
import MethodForge.Proofs.Text.Decimal
import MethodForge.Proofs.Text.Sections

namespace MethodForge.Deploy

open Schema (DeployOptions EnvironmentVariable Resources)
open Text (StartsApart optionalLine sectionLines startsApart_cons startsApart_nil)

namespace Manifest

/-! ### The sections of a manifest -/

theorem envLines_eq (env : List EnvironmentVariable) :
    envLines env = sectionLines "        env:" variableLines env := rfl

/-- The key of the line that starts a variable. -/
def variableKey : String := "        - name: "

theorem variableLines_starts (envVariable : EnvironmentVariable) :
    ∃ line others, variableLines envVariable = line :: others ∧
      variableKey.toList <+: line.toList :=
  ⟨_, _, rfl, by simp [variableKey]⟩

theorem variableLines_append_inj {first second : EnvironmentVariable} {rest rest' : List String}
    (same : variableLines first ++ rest = variableLines second ++ rest') :
    first = second ∧ rest = rest' := by
  simp only [variableLines, List.cons_append, List.nil_append, List.cons.injEq] at same
  obtain ⟨names, values, rests⟩ := same
  have name : first.name = second.name := by simpa [← String.toList_inj] using names
  have quoted : quote first.value = quote second.value := by
    simpa [← String.toList_inj] using values
  have value : first.value = second.value := JsonText.quote_injective quoted
  cases first
  cases second
  cases name
  cases value
  exact ⟨rfl, rests⟩

/-- What the line of a quantity starts with. -/
def quantityKey : String := "            "

/-- The line of a quantity. -/
def quantityLine (entry : String × String) : List String :=
  [quantityKey ++ entry.1 ++ ": " ++ quote entry.2]

theorem quantityLines_eq (heading : String) (quantities : SortedMap String) :
    quantityLines heading quantities =
      sectionLines ("          " ++ heading ++ ":") quantityLine quantities.entries := by
  rw [quantityLines, sectionLines, List.map_eq_flatMap]
  rfl

theorem quantityLine_starts (entry : String × String) :
    ∃ line others, quantityLine entry = line :: others ∧ quantityKey.toList <+: line.toList :=
  ⟨_, _, rfl, by simp [quantityKey]⟩

theorem quantityLine_append_inj {first second : String × String} {rest rest' : List String}
    (same : quantityLine first ++ rest = quantityLine second ++ rest') :
    first = second ∧ rest = rest' := by
  obtain ⟨lines, rests⟩ := List.cons.inj same
  have keyed : first.1 ++ ": " ++ quote first.2 = second.1 ++ ": " ++ quote second.2 := by
    simpa [← String.toList_inj] using lines
  obtain ⟨key, quantity⟩ := JsonText.keyed_quote_injective keyed
  exact ⟨Prod.ext key quantity, rests⟩

/-- A section of quantities is told apart from what follows it. -/
theorem quantityLines_append_inj {heading : String} {first second : SortedMap String}
    {rest rest' : List String} (apart : StartsApart quantityKey rest)
    (apart' : StartsApart quantityKey rest')
    (headingApart : StartsApart ("          " ++ heading ++ ":") rest)
    (headingApart' : StartsApart ("          " ++ heading ++ ":") rest')
    (same : quantityLines heading first ++ rest = quantityLines heading second ++ rest') :
    first = second ∧ rest = rest' := by
  rw [quantityLines_eq, quantityLines_eq] at same
  obtain ⟨entries, rests⟩ := Text.sectionLines_append_inj quantityLine_starts
    (fun _ _ _ _ => quantityLine_append_inj) apart apart' headingApart headingApart' same
  exact ⟨SortedMap.ext entries, rests⟩

theorem startsApart_quantityLines {key heading : String}
    (other : ¬ key.toList <+: ("          " ++ heading ++ ":").toList)
    (quantities : SortedMap String) : StartsApart key (quantityLines heading quantities) := by
  unfold quantityLines
  split
  · exact startsApart_nil key
  · exact startsApart_cons other _

/-- Below their heading the limits are written before the requests. -/
theorem tail_resourceLines (resources : Resources) :
    (resourceLines resources).tail =
      quantityLines "limits" resources.limits ++ quantityLines "requests" resources.requests := by
  unfold resourceLines
  split
  · rename_i none
    rw [Bool.and_eq_true] at none
    rw [quantityLines, if_pos none.1, quantityLines, if_pos none.2]
    rfl
  · rfl

/-- The quantities are told apart: which resource has which, and whether it is a limit. -/
theorem resourceLines_injective {first second : Resources}
    (same : resourceLines first = resourceLines second) : first = second := by
  have tails := congrArg List.tail same
  rw [tail_resourceLines, tail_resourceLines] at tails
  have requestsApart : ∀ quantities, StartsApart quantityKey (quantityLines "requests" quantities) :=
    startsApart_quantityLines (by decide)
  have limitsApart : ∀ quantities,
      StartsApart ("          " ++ "limits" ++ ":") (quantityLines "requests" quantities) :=
    startsApart_quantityLines (by decide)
  obtain ⟨limits, rests⟩ := quantityLines_append_inj (requestsApart _) (requestsApart _)
    (limitsApart _) (limitsApart _) tails
  rw [← List.append_nil (quantityLines "requests" first.requests),
    ← List.append_nil (quantityLines "requests" second.requests)] at rests
  obtain ⟨requests, -⟩ := quantityLines_append_inj (startsApart_nil _) (startsApart_nil _)
    (startsApart_nil _) (startsApart_nil _) rests
  cases first
  cases second
  cases limits
  cases requests
  rfl

theorem startsApart_resourceLines {key : String}
    (other : ¬ key.toList <+: "        resources:".toList) (resources : Resources) :
    StartsApart key (resourceLines resources) := by
  unfold resourceLines
  split
  · exact startsApart_nil key
  · exact startsApart_cons other _

/-- The text of a number that is not zero. -/
def number? (value : Int64) : Option String :=
  if value = 0 then none else some (toString value.toInt)

theorem number?_injective {first second : Int64} (same : number? first = number? second) :
    first = second := by
  unfold number? at same
  split_ifs at same with isZero isZero'
  · rw [isZero, isZero']
  · exact Int64.toInt_inj.1 (Text.toString_int_injective (Option.some.inj same))

theorem numberLine_eq (key : String) (value : Int64) :
    numberLine key value = optionalLine ("      " ++ key ++ ": ") (number? value) := by
  unfold numberLine number?
  split_ifs <;> rfl

theorem startsApart_numberLine {key name : String}
    (other : ∀ value : String, ¬ key.toList <+: ("      " ++ name ++ ": " ++ value).toList)
    (value : Int64) : StartsApart key (numberLine name value) := by
  unfold numberLine
  split
  · exact startsApart_nil key
  · exact startsApart_cons (other _) _

/-- The service account, unless there is none. -/
def account? (serviceAccount : String) : Option String :=
  if serviceAccount.isEmpty then none else some serviceAccount

theorem account?_injective {first second : String} (same : account? first = account? second) :
    first = second := by
  unfold account? at same
  split_ifs at same with isEmpty isEmpty'
  · rw [String.isEmpty_iff.1 isEmpty, String.isEmpty_iff.1 isEmpty']
  · exact Option.some.inj same

theorem accountLines_eq (serviceAccount : String) :
    (if serviceAccount.isEmpty then []
      else ["      serviceAccountName: " ++ serviceAccount]) =
      optionalLine "      serviceAccountName: " (account? serviceAccount) := by
  unfold account?
  split_ifs <;> rfl

/-! ### The whole manifest -/

/-- The quantities, none where the options do not speak of them. -/
def resources (manifest : Manifest) : Resources :=
  manifest.deploy.resources?.getD {}

/-- The manifest with its deployment options and its quantities written out. -/
def normal (manifest : Manifest) : Manifest :=
  { manifest with
    deploy? := some { manifest.deploy with resources? := some manifest.resources } }

theorem settingLines_eq (manifest : Manifest) :
    manifest.settingLines = envLines manifest.deploy.env ++ resourceLines manifest.resources := by
  rw [settingLines, resources]
  cases manifest.deploy.resources? with
  | none => rfl
  | some resources => rfl

/-- The line behind the options for the whole template. -/
def containersHeading : String := "      containers:"

/-- The lines for the options for the whole template. -/
def optionLines (options : DeployOptions) : List String :=
  optionalLine "      serviceAccountName: " (account? options.serviceAccount) ++
    (numberLine "containerConcurrency" options.containerConcurrency ++
      numberLine "timeoutSeconds" options.timeoutSeconds)

/-- The options for the whole template are told apart from the containers behind them. -/
theorem optionLines_append_inj {first second : DeployOptions} {rest rest' : List String}
    (same : optionLines first ++ containersHeading :: rest =
      optionLines second ++ containersHeading :: rest') :
    first.serviceAccount = second.serviceAccount ∧
      first.containerConcurrency = second.containerConcurrency ∧
      first.timeoutSeconds = second.timeoutSeconds ∧ rest = rest' := by
  simp only [optionLines, List.append_assoc] at same
  obtain ⟨accounts, numbers⟩ := Text.optionalLine_append_inj
    (.append (startsApart_numberLine (by simp) _) (.append (startsApart_numberLine (by simp) _)
      (startsApart_cons (by decide) _)))
    (.append (startsApart_numberLine (by simp) _) (.append (startsApart_numberLine (by simp) _)
      (startsApart_cons (by decide) _))) same
  rw [numberLine_eq, numberLine_eq "containerConcurrency" second.containerConcurrency] at numbers
  obtain ⟨concurrencies, timeouts⟩ := Text.optionalLine_append_inj
    (.append (startsApart_numberLine (by simp) _) (startsApart_cons (by decide) _))
    (.append (startsApart_numberLine (by simp) _) (startsApart_cons (by decide) _)) numbers
  rw [numberLine_eq, numberLine_eq] at timeouts
  obtain ⟨seconds, rests⟩ := Text.optionalLine_append_inj (startsApart_cons (by decide) _)
    (startsApart_cons (by decide) _) timeouts
  exact ⟨account?_injective accounts, number?_injective concurrencies, number?_injective seconds,
    (List.cons.inj rests).2⟩

/-- The variables and the quantities are told apart. -/
theorem settingLines_injective {first second : Manifest}
    (same : first.settingLines = second.settingLines) :
    first.deploy.env = second.deploy.env ∧ first.resources = second.resources := by
  rw [settingLines_eq, settingLines_eq, envLines_eq, envLines_eq] at same
  have variablesApart : ∀ resources, StartsApart variableKey (resourceLines resources) :=
    startsApart_resourceLines (by decide)
  have headingApart : ∀ resources, StartsApart "        env:" (resourceLines resources) :=
    startsApart_resourceLines (by decide)
  obtain ⟨env, rests⟩ := Text.sectionLines_append_inj variableLines_starts
    (fun _ _ _ _ => variableLines_append_inj) (variablesApart _) (variablesApart _)
    (headingApart _) (headingApart _) same
  exact ⟨env, resourceLines_injective rests⟩

theorem lines_eq_sections (manifest : Manifest) :
    manifest.lines =
      "apiVersion: serving.knative.dev/v1alpha1" :: "kind: Service" :: "metadata:" ::
        ("  name: " ++ manifest.name) :: ("  namespace: " ++ manifest.kubeNamespace) :: "spec:" ::
        "  template:" :: "    spec:" ::
        (optionLines manifest.deploy ++ containersHeading :: (imageKey ++ manifest.image) ::
          "        ports:" :: "        - name: h2c" ::
          ("          containerPort: " ++ toString containerPort) ::
          (manifest.probeLines "readinessProbe" ++
            (manifest.probeLines "livenessProbe" ++ manifest.settingLines))) := by
  rw [lines_eq, templateLines, accountLines_eq, optionLines, containerLines]
  simp only [List.append_assoc, List.cons_append, List.nil_append, containersHeading]

/-- Manifests with the same lines are written from the same things. -/
theorem normal_eq_of_lines_eq {first second : Manifest} (same : first.lines = second.lines) :
    first.normal = second.normal := by
  rw [lines_eq_sections, lines_eq_sections] at same
  simp only [List.cons.injEq, true_and] at same
  obtain ⟨names, namespaces, options⟩ := same
  obtain ⟨account, concurrency, timeout, container⟩ := optionLines_append_inj options
  simp only [probeLines, List.cons_append, List.nil_append, List.cons.injEq, true_and] at container
  obtain ⟨images, binaries, -, settings⟩ := container
  obtain ⟨env, resources⟩ := settingLines_injective settings
  have name : first.name = second.name := by simpa [← String.toList_inj] using names
  have kubeNamespace : first.kubeNamespace = second.kubeNamespace := by
    simpa [← String.toList_inj] using namespaces
  have image : first.image = second.image := by simpa [← String.toList_inj] using images
  have binary : first.binary = second.binary := by simpa [← String.toList_inj] using binaries
  simp only [normal, name, kubeNamespace, image, binary, account, concurrency, timeout, env,
    resources]

/-- A manifest is written from its normal form. -/
theorem lines_normal (manifest : Manifest) : manifest.normal.lines = manifest.lines := by
  have settings : manifest.normal.settingLines = manifest.settingLines := by
    rw [settingLines_eq manifest]
    rfl
  rw [lines_eq_sections, settings, lines_eq_sections manifest]
  rfl

/-! ### The text of a manifest -/

/-- Whether everything that is written as it stands is of one line. Values of variables and quantities
are quoted, so they may hold anything. -/
structure Closed (manifest : Manifest) : Prop where
  name : '\n' ∉ manifest.name.toList
  kubeNamespace : '\n' ∉ manifest.kubeNamespace.toList
  image : '\n' ∉ manifest.image.toList
  binary : '\n' ∉ manifest.binary.toList
  serviceAccount : '\n' ∉ manifest.deploy.serviceAccount.toList
  env : ∀ envVariable ∈ manifest.deploy.env, '\n' ∉ envVariable.name.toList
  limits : ∀ entry ∈ manifest.resources.limits.entries, '\n' ∉ entry.1.toList
  requests : ∀ entry ∈ manifest.resources.requests.entries, '\n' ∉ entry.1.toList

theorem closed_of_mem_numberLine {key : String} (closed : '\n' ∉ key.toList) (value : Int64) :
    ∀ line ∈ numberLine key value, '\n' ∉ line.toList := by
  unfold numberLine
  split
  · simp
  · simpa [closed] using Text.newline_not_mem_toString_int value.toInt

theorem closed_of_mem_optionLines {options : DeployOptions}
    (closed : '\n' ∉ options.serviceAccount.toList) :
    ∀ line ∈ optionLines options, '\n' ∉ line.toList := by
  have account : ∀ line ∈ optionalLine "      serviceAccountName: "
      (account? options.serviceAccount), '\n' ∉ line.toList := by
    rw [← accountLines_eq]
    split
    · simp
    · simp [closed]
  rw [optionLines, List.forall_mem_append, List.forall_mem_append]
  exact ⟨account, closed_of_mem_numberLine (by decide) _, closed_of_mem_numberLine (by decide) _⟩

theorem closed_of_mem_envLines {env : List EnvironmentVariable}
    (closed : ∀ envVariable ∈ env, '\n' ∉ envVariable.name.toList) :
    ∀ line ∈ envLines env, '\n' ∉ line.toList := by
  unfold envLines
  split
  · simp
  · rw [List.forall_mem_cons]
    refine ⟨by decide, ?_⟩
    intro line member
    obtain ⟨envVariable, inEnv, inLines⟩ := List.mem_flatMap.1 member
    have name := closed envVariable inEnv
    have value : '\n' ∉ (quote envVariable.value).toList := JsonText.newline_not_mem_quote _
    simp only [variableLines, List.mem_cons, List.not_mem_nil, or_false] at inLines
    rcases inLines with rfl | rfl
    · simp [name]
    · simp [value]

theorem closed_of_mem_quantityLines {heading : String} (closedHeading : '\n' ∉ heading.toList)
    {quantities : SortedMap String} (closed : ∀ entry ∈ quantities.entries, '\n' ∉ entry.1.toList) :
    ∀ line ∈ quantityLines heading quantities, '\n' ∉ line.toList := by
  unfold quantityLines
  split
  · simp
  · rw [List.forall_mem_cons]
    refine ⟨by simp [closedHeading], ?_⟩
    intro line member
    obtain ⟨entry, inEntries, rfl⟩ := List.mem_map.1 member
    have key := closed entry inEntries
    have quantity : '\n' ∉ (quote entry.2).toList := JsonText.newline_not_mem_quote _
    simp [key, quantity]

theorem closed_of_mem_resourceLines {resources : Resources}
    (limits : ∀ entry ∈ resources.limits.entries, '\n' ∉ entry.1.toList)
    (requests : ∀ entry ∈ resources.requests.entries, '\n' ∉ entry.1.toList) :
    ∀ line ∈ resourceLines resources, '\n' ∉ line.toList := by
  unfold resourceLines
  split
  · simp
  · rw [List.forall_mem_cons, List.forall_mem_append]
    exact ⟨by decide, closed_of_mem_quantityLines (by decide) limits,
      closed_of_mem_quantityLines (by decide) requests⟩

theorem closed_of_mem_probeLines {manifest : Manifest} (closed : '\n' ∉ manifest.binary.toList)
    {probe : String} (closedProbe : '\n' ∉ probe.toList) :
    ∀ line ∈ manifest.probeLines probe, '\n' ∉ line.toList := by
  simp [probeLines, closed, closedProbe]

/-- No value adds a line to a manifest. -/
theorem closed_of_mem_lines {manifest : Manifest} (closed : manifest.Closed) :
    ∀ line ∈ manifest.lines, '\n' ∉ line.toList := by
  have options := closed_of_mem_optionLines closed.serviceAccount
  have readiness : ∀ line ∈ manifest.probeLines "readinessProbe", '\n' ∉ line.toList :=
    closed_of_mem_probeLines closed.binary (by decide)
  have liveness : ∀ line ∈ manifest.probeLines "livenessProbe", '\n' ∉ line.toList :=
    closed_of_mem_probeLines closed.binary (by decide)
  have env := closed_of_mem_envLines closed.env
  have resources := closed_of_mem_resourceLines closed.limits closed.requests
  rw [lines_eq_sections, settingLines_eq]
  simp only [List.forall_mem_cons, List.forall_mem_append]
  refine ⟨by decide, by decide, by decide, ?_, ?_, by decide, by decide, by decide, options,
    by decide, ?_, by decide, by decide, by decide, readiness, liveness, env, resources⟩
  · simp [closed.name]
  · simp [closed.kubeNamespace]
  · simp [imageKey, closed.image]

end Manifest

/-- A manifest is one line of text for each line written, whatever the options hold, and two manifests
have the same text exactly when they are written from the same names, image and program and the same
deployment options. No options at all are the default ones, and no quantities at all empty ones. -/
theorem manifest_text_eq_iff {first second : Manifest} (closed : first.Closed)
    (closed' : second.Closed) :
    Text.endedLines first.text = first.lines ∧
      (first.text = second.text ↔ first.normal = second.normal) := by
  have lines := Text.endedLines_unlines (Manifest.closed_of_mem_lines closed)
  have lines' := Text.endedLines_unlines (Manifest.closed_of_mem_lines closed')
  refine ⟨lines, ?_, ?_⟩
  · intro same
    apply Manifest.normal_eq_of_lines_eq
    calc
      first.lines = Text.endedLines first.text := lines.symm
      _ = Text.endedLines second.text := congrArg _ same
      _ = second.lines := lines'
  · intro same
    rw [Manifest.text, Manifest.text, ← Manifest.lines_normal first, same,
      Manifest.lines_normal second]

/-- A manifest that limits one resource. -/
def limited (resource quantity : String) : Manifest where
  name := "users-get"
  kubeNamespace := "default"
  image := "github.com/acme/api/gen"
  binary := "get"
  deploy? := some { resources? := some { limits := SortedMap.empty.insert resource quantity } }

theorem limited_closed {resource : String} (closed : '\n' ∉ resource.toList) (quantity : String) :
    (limited resource quantity).Closed := by
  refine ⟨by simp [limited], by simp [limited], by simp [limited], by simp [limited],
    by simp [limited, Manifest.deploy], ?_, ?_, ?_⟩
  · simp [limited, Manifest.deploy]
  · intro entry member
    cases List.mem_singleton.1 member
    exact closed
  · intro entry member
    cases member

/-- A key that looks like a key and the start of its value, and a value that looks like a line. -/
theorem manifest_text_eq_iff_limited :
    (limited "cpu: \"1" "2").Closed ∧ (limited "cpu" "1: \"2\"\n            memory: \"1").Closed ∧
      (limited "cpu: \"1" "2").text ≠ (limited "cpu" "1: \"2\"\n            memory: \"1").text := by
  have closed : (limited "cpu: \"1" "2").Closed := limited_closed (by decide) _
  have closed' : (limited "cpu" "1: \"2\"\n            memory: \"1").Closed :=
    limited_closed (by decide) _
  refine ⟨closed, closed', ?_⟩
  rw [Ne, (manifest_text_eq_iff closed closed').2]
  decide

end MethodForge.Deploy
