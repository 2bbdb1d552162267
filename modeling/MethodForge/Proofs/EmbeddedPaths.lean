/-
Module: MethodForge.Proofs.EmbeddedPaths
Purpose: The paths that a method's artifacts hold are those at which the pipeline writes. The pipeline
  gives every run a directory and planned runs go below it; the generators compute the same places
  from the layout, in other groupings. The artifacts are found from any planned run of a standard
  invocation, because every such run keeps the layout and, where no two methods share their names,
  finds the very method that it was planned for.
Main exports: Deploy.Manifest.Runs, Go.ProgramImports, Go.ScaffoldImports, EmbedsPaths,
  planned_parameters, embedsPaths_of_target, embedded_paths_agree
-/
import MethodForge.Pipeline
import MethodForge.Proofs.Deploy.Manifest
import MethodForge.Proofs.DispatchFile.Paths
import MethodForge.Proofs.Go.ScaffoldImports

namespace MethodForge

open Deploy (Manifest)
open Go (EntrypointFile ScaffoldFile aliasKey homeAlias importLine programImports programLines
  quotedPath scaffoldLines)
open Path (isRooted join lastComponent)
open Schema (Request Target)
open Text (IsIdentifier IsWord IsWrittenFrom Neat linesOf startingWith startsWith valuesUnder)

/-! ### What artifacts hold -/

/-- The lines of a probe that runs the program of the given name. -/
def probeBlock (probe program : String) : List String :=
  [ "        " ++ probe ++ ":",
    "          exec:",
    "            command: [\"/ko-app/" ++ program ++ "\", \"probe\"]" ]

/-- Whether a manifest runs an image, and probes it by the program that the last component of its path
names. The text is cut into the same lines as long as the path does not hold a line feed. -/
structure Deploy.Manifest.Runs (manifest : Manifest) (image : String) : Prop where
  imageWritten : valuesUnder Manifest.imageKey manifest.lines = [image]
  imageRead : '\n' ∉ image.toList →
    (Manifest.imageKey ++ image).toList ∈ linesOf manifest.text
  probesWritten : ∀ probe ∈ ["readinessProbe", "livenessProbe"],
    probeBlock probe (lastComponent image) <:+: manifest.lines
  probesRead : ∀ probe ∈ ["readinessProbe", "livenessProbe"],
    (probeBlock probe (lastComponent image)).map String.toList <:+: linesOf manifest.text

/-- Whether a text is that of a program which imports the implementation and the messages of its
method under these paths, and nothing else under their aliases. -/
structure Go.ProgramImports (content implementation messages : String) : Prop where
  written : ∃ (service : String) (imports : List String) (stubs : List (List String)),
    IsWrittenFrom content (programLines service imports stubs) ∧
      valuesUnder (aliasKey "impl") imports = [quotedPath implementation] ∧
      valuesUnder (aliasKey "pb") imports = [quotedPath messages]
  implementationRead : '\n' ∉ implementation.toList →
    (aliasKey "impl" ++ quotedPath implementation).toList ∈ linesOf content
  messagesRead : '\n' ∉ messages.toList →
    (aliasKey "pb" ++ quotedPath messages).toList ∈ linesOf content

/-- Whether a text is that of a scaffold which imports nothing but the messages of its method under
the alias of the home package, if it imports that. Where no line is broken by a name, this is so of
all lines of the text. -/
def Go.ScaffoldImports (content messages : String) : Prop :=
  ∃ (package : String) (imports : List GoImport) (signature : Signature),
    let lines := scaffoldLines package imports signature.implementation
    IsWrittenFrom content lines ∧
      (∀ imported ∈ imports, imported.alias = "pb" →
        imported.path = messages ∧
          ('\n' ∉ messages.toList →
            (aliasKey "pb" ++ quotedPath messages).toList ∈ linesOf content)) ∧
      ((∀ line ∈ lines, '\n' ∉ line.toList) →
        ∀ line ∈ startingWith (aliasKey "pb") (linesOf content),
          line = (aliasKey "pb" ++ quotedPath messages).toList)

/-- What the manifest, the program and the scaffold that are written for a record hold. -/
structure EmbedsPaths (toolchain : Toolchain) (request : Request) (record : Parameters)
    (image implementation messages : String) : Prop where
  manifest : ∃ (name : String) (manifest : Manifest),
    ((configGenerator toolchain).generate record request).value = .ok [⟨name, manifest.text⟩] ∧
      manifest.Runs image
  entrypoint : ∃ content,
    ((entrypointGenerator toolchain).generate record request).value =
        .ok [⟨goFileName, content⟩] ∧
      Go.ProgramImports content implementation messages
  scaffold : ∃ content,
    (scaffoldGenerator.generate record request).value = .ok [⟨goFileName, content⟩] ∧
      Go.ScaffoldImports content messages

/-! ### Artifacts of a record -/

section

variable {record : Parameters} {request : Request} {target : Target}

theorem neat_probeBlock {probe program : String}
    (known : probe ∈ ["readinessProbe", "livenessProbe"]) (closed : '\n' ∉ program.toList) :
    ∀ line ∈ probeBlock probe program, Neat line := by
  have command : "            command: [\"/ko-app/" ++ program ++ "\", \"probe\"]" =
      "            command: [\"/ko-app/" ++ program ++ "\", " ++ "\"probe\"]" := by
    simp [← String.toList_inj]
  intro line member
  simp only [probeBlock, List.mem_cons, List.not_mem_nil, or_false] at member known
  rcases member with rfl | rfl | rfl
  · rcases known with rfl | rfl <;> decide
  · decide
  · rw [command]
    exact Text.neat_append_word (by simp [closed]) (by decide)

/-- The manifest of a method runs its image. -/
theorem manifestOf_runs (identifiers : target.HasIdentifiers) :
    (manifestOf record target).Runs
      (Naming.entrypointImage record.base record.genDir target.serviceName target.methodName) := by
  have component := Naming.lastComponent_entrypointImage identifiers.1 identifiers.2 record.base
    record.genDir
  have binary : (manifestOf record target).binary = lastComponent
      (Naming.entrypointImage record.base record.genDir target.serviceName target.methodName) :=
    component.symm
  have word : IsWord (Naming.methodPackage target.methodName) := identifiers.2.isWord_lowercase
  have probes : ∀ probe ∈ ["readinessProbe", "livenessProbe"],
      probeBlock probe (manifestOf record target).binary <:+: (manifestOf record target).lines :=
    fun probe known => Manifest.probeLines_isInfix _ known
  have closed : '\n' ∉ (manifestOf record target).binary.toList := word.2.not_mem (by decide)
  have image := Manifest.valuesUnder_image (manifestOf record target)
  refine ⟨image, fun closedImage => ?_, ?_, ?_⟩
  · obtain ⟨before, shape⟩ := Path.exists_eq_append_lastComponent
      (Naming.entrypointImage record.base record.genDir target.serviceName target.methodName)
    rw [component] at shape
    refine Text.mem_linesOf_unlines ?_ ?_
    · rw [Manifest.lines_eq]
      simp [Manifest.containerLines, manifestOf]
    · rw [shape] at closedImage ⊢
      rw [← String.append_assoc]
      refine Text.neat_append_word ?_ word
      simp [Manifest.imageKey] at closedImage ⊢
      exact closedImage.1
  · rw [← binary]
    exact probes
  · rw [← binary]
    exact fun probe known =>
      Text.isInfix_linesOf_unlines (probes probe known) (neat_probeBlock known closed)

/-- An import of a path without a line feed is a line of what it is written in. -/
theorem importLine_mem_linesOf {content label path : String} {lines : List String}
    (written : IsWrittenFrom content lines) (closedLabel : '\n' ∉ label.toList)
    (member : importLine ⟨label, path⟩ ∈ lines) (closed : '\n' ∉ path.toList) :
    (aliasKey label ++ quotedPath path).toList ∈ linesOf content := by
  have text : importLine ⟨label, path⟩ = aliasKey label ++ quotedPath path := rfl
  rw [← text]
  refine written.mem_of_neat member (Go.neat_importLine ?_) (Go.importLine_ne_empty _)
  simp [importLine, aliasKey, quotedPath, closedLabel, closed]

/-- The program of a method imports its implementation and its messages. -/
theorem programImports_of_target (toolchain : Toolchain)
    (found : record.target request = .ok target) :
    ∃ content,
      ((entrypointGenerator toolchain).generate record request).value =
          .ok [⟨goFileName, content⟩] ∧
        Go.ProgramImports content
          (Naming.implementationImportPath record.base record.methodsDir target.serviceName
            target.methodName)
          (Naming.protoImportPath record.base record.genDir target.file.name) := by
  obtain ⟨content, generated, written⟩ := entrypointGenerator_written toolchain found
  obtain ⟨home, implementation, numbered⟩ := EntrypointFile.ofTarget_imports record request target
  rw [EntrypointFile.imports, home, implementation] at written
  have inside {line : String} {others : List Go.GoImport} {home implementation : String}
      {stubs : List (List String)} (member : line ∈ programImports home others implementation) :
      line ∈ programLines target.serviceName (programImports home others implementation) stubs := by
    simp only [programLines, List.mem_append]
    exact .inl (.inl (.inl (.inr member)))
  refine ⟨content, generated, ⟨_, _, _, written, Go.valuesUnder_implementation numbered,
    Go.valuesUnder_home numbered⟩, ?_, ?_⟩
  · exact importLine_mem_linesOf written (by decide) (inside (List.mem_append_right _ (by simp)))
  · refine importLine_mem_linesOf written (by decide) (inside (List.mem_append_left _ ?_))
    exact List.mem_append_right _ List.mem_cons_self

/-- No line of an implementation imports the home package. -/
theorem not_prefix_implementation (signature : Go.Signature) :
    ∀ line ∈ signature.implementation, ¬ (aliasKey "pb").toList <+: line.toList := by
  have header : ¬ (aliasKey "pb").toList <+: signature.implementationHeader.toList := by
    obtain ⟨before, between, after, text, -⟩ := signature.exists_implementationHeader_eq
    simp [text, aliasKey, Go.implementationKey]
  have answer : ¬ (aliasKey "pb").toList <+: signature.todoAnswer.toList := by
    simp [aliasKey, Go.Signature.todoAnswer]
  rw [Go.Signature.implementation_eq, List.forall_mem_cons, List.forall_mem_cons,
    List.forall_mem_singleton]
  exact ⟨header, answer, by decide⟩

/-- The scaffold of a method imports its messages, if it imports the home package. -/
theorem scaffoldImports_of_target (found : record.target request = .ok target) :
    ∃ content,
      (scaffoldGenerator.generate record request).value = .ok [⟨goFileName, content⟩] ∧
        Go.ScaffoldImports content
          (Naming.protoImportPath record.base record.genDir target.file.name) := by
  obtain ⟨content, generated, written⟩ := scaffoldGenerator_written found
  have labels : ∀ imported ∈ (ScaffoldFile.ofTarget record request target).imports, _ :=
    fun _ member => ScaffoldFile.imported_cases record request target member
  generalize (ScaffoldFile.ofTarget record request target).imports = imports at written labels
  generalize (ScaffoldFile.ofTarget record request target).signature = signature at written
  generalize Naming.methodPackage target.methodName = package at written
  generalize Naming.protoImportPath record.base record.genDir target.file.name = messages at labels ⊢
  have inside {imported : Go.GoImport} (member : imported ∈ imports) :
      importLine imported ∈ scaffoldLines package imports signature.implementation := by
    simp only [scaffoldLines, List.mem_append, List.mem_map]
    exact .inl (.inl (.inr ⟨imported, member, rfl⟩))
  refine ⟨content, generated, package, imports, signature, written, ?_, fun closed => ?_⟩
  · intro imported member atHome
    rcases labels imported member with rfl | ⟨position, numbered⟩
    · exact ⟨rfl, importLine_mem_linesOf written (by decide) (inside member)⟩
    · exact absurd (atHome.symm.trans numbered) (Go.homeAlias_ne_otherAlias position)
  · have only : ∀ line ∈ (scaffoldLines package imports signature.implementation).filter
        (startsWith (aliasKey "pb")), line = importLine ⟨"pb", messages⟩ ∧ Neat line := by
      intro line member
      have closedLine := closed line (List.mem_of_mem_filter member)
      rw [Go.filter_scaffoldLines imports _ (by simp [aliasKey]) (by decide),
        Text.filter_startsWith_eq_nil (not_prefix_implementation _), List.append_nil] at member
      obtain ⟨inImports, starts⟩ := List.mem_filter.1 member
      obtain ⟨imported, inList, rfl⟩ := List.mem_map.1 inImports
      rcases labels imported inList with rfl | ⟨position, numbered⟩
      · exact ⟨rfl, Go.neat_importLine closedLine⟩
      · exact absurd (of_decide_eq_true starts) (Go.not_prefix_importLine numbered (by decide))
    intro line starts
    rw [written.startingWith_eq closed (by decide) fun line member => (only line member).2] at starts
    obtain ⟨source, member, rfl⟩ := List.mem_map.1 starts
    rw [(only source member).1]
    rfl

/-- A record that finds its method embeds the paths that its own layout gives. -/
theorem embedsPaths_of_target {toolchain : Toolchain} (found : record.target request = .ok target)
    (identifiers : target.HasIdentifiers) :
    EmbedsPaths toolchain request record
      (Naming.entrypointImage record.base record.genDir target.serviceName target.methodName)
      (Naming.implementationImportPath record.base record.methodsDir target.serviceName
        target.methodName)
      (Naming.protoImportPath record.base record.genDir target.file.name) := by
  refine ⟨?_, ?_, ?_⟩
  · exact ⟨_, _, configGenerator_single found, manifestOf_runs identifiers⟩
  · exact programImports_of_target toolchain found
  · exact scaffoldImports_of_target found

end

/-! ### Records of the pipeline -/

section

variable {layout : Parameters} {invocation : Invocation}

/-- A standard invocation keeps the layout and names no method. -/
theorem parameters_of_mem_standardInvocations
    (standard : invocation ∈ standardInvocations layout) :
    invocation.parameters =
      layout.withTarget invocation.name "" "" invocation.outDirectory := by
  simp only [standardInvocations, List.mem_cons, List.not_mem_nil, or_false] at standard
  rcases standard with rfl | rfl | rfl | rfl | rfl <;> rfl

/-- The name of a standard invocation gives its directory, in which `gateway` joins `config`. -/
theorem outDirectory_of_mem_standardInvocations
    (standard : invocation ∈ standardInvocations layout) :
    (invocation.name = "proto" → invocation.outDirectory = join [layout.genDir, "proto"]) ∧
      (invocation.name = "entrypoint" →
        invocation.outDirectory = join [layout.genDir, "entrypoint"]) ∧
      (invocation.name = "methods" → invocation.outDirectory = join [layout.methodsDir]) := by
  simp only [standardInvocations, List.mem_cons, List.not_mem_nil, or_false] at standard
  rcases standard with rfl | rfl | rfl | rfl | rfl <;>
    simp [Invocation.name, Invocation.outDirectory, Parameters.withTarget]

variable {request : Request} {index : Nat} {target : Target} {name : String} {fanout : Fanout}
  {run : PlannedRun}

theorem planned_eq (found : request.targets[index]? = some target) {parameters : Parameters}
    (planned : (planAll name parameters request fanout)[index]? = some run) :
    run = planTarget name parameters fanout target := by
  rw [planAll, List.getElem?_map, found] at planned
  cases planned
  rfl

/-- A run that is planned from a standard invocation keeps the layout and names its method. -/
theorem planned_parameters (standard : invocation ∈ standardInvocations layout)
    (found : request.targets[index]? = some target)
    (planned : (planAll name invocation.parameters request fanout)[index]? = some run) :
    ∃ nested, run.parameters =
      layout.withTarget name target.serviceName target.methodName nested := by
  rw [planned_eq found planned, parameters_of_mem_standardInvocations standard]
  exact planTarget_parameters _ _ fanout target

end

/-- The image, the probes and the imports of a method's artifacts name the directories at which the
pipeline and its planned runs write, below the base of the layout. -/
theorem embedded_paths_agree {toolchain : Toolchain} {layout : Parameters} {request : Request}
    (relativeGenDir : isRooted layout.genDir.toList = false)
    (relativeMethodsDir : isRooted layout.methodsDir.toList = false)
    (identifiers : ∀ target ∈ request.targets, target.HasIdentifiers)
    (distinct : (request.targets.map Target.names).Nodup)
    {proto entrypoint methods invocation : Invocation}
    (protoStandard : proto ∈ standardInvocations layout) (protoName : proto.name = "proto")
    (entrypointStandard : entrypoint ∈ standardInvocations layout)
    (entrypointName : entrypoint.name = "entrypoint")
    (methodsStandard : methods ∈ standardInvocations layout)
    (methodsName : methods.name = "methods")
    (standard : invocation ∈ standardInvocations layout)
    {index : Nat} {target : Target} (found : request.targets[index]? = some target)
    {entrypointRun methodsRun run : PlannedRun} {name : String} {fanout : Fanout}
    (entrypointPlanned : (planAll entrypoint.name entrypoint.parameters request
      .perMethod)[index]? = some entrypointRun)
    (methodsPlanned : (planAll methods.name methods.parameters request .perMethod)[index]? =
      some methodsRun)
    (planned : (planAll name invocation.parameters request fanout)[index]? = some run) :
    EmbedsPaths toolchain request run.parameters
      (join [layout.base, entrypointRun.parameters.nestedDirectory])
      (join [layout.base, methodsRun.parameters.nestedDirectory])
      (join [layout.base, proto.parameters.nestedDirectory, Path.parent target.file.name]) := by
  have member : target ∈ request.targets := List.mem_of_getElem? found
  obtain ⟨service, method⟩ := identifiers target member
  obtain ⟨nested, record⟩ := planned_parameters standard found planned
  -- The run finds its own target and not another one of the same names.
  have again : run.parameters.target request = .ok target := by
    have search := Schema.findTarget?_of_nodup distinct member
    rw [record]
    exact layout.target_withTarget service.1 search name nested
  have image : join [layout.base, entrypointRun.parameters.nestedDirectory] =
      Naming.entrypointImage layout.base layout.genDir target.serviceName target.methodName := by
    have directories := outDirectory_of_mem_standardInvocations entrypointStandard
    have directory := directories.2.1 entrypointName
    rw [planned_eq found entrypointPlanned, Naming.entrypointImage_eq relativeGenDir service method,
      ← directory]
    rfl
  have implementation : join [layout.base, methodsRun.parameters.nestedDirectory] =
      Naming.implementationImportPath layout.base layout.methodsDir target.serviceName
        target.methodName := by
    have directory := (outDirectory_of_mem_standardInvocations methodsStandard).2.2 methodsName
    rw [planned_eq found methodsPlanned,
      Naming.implementationImportPath_eq relativeMethodsDir service method, ← directory]
    rfl
  have messages : join [layout.base, proto.parameters.nestedDirectory,
      Path.parent target.file.name] =
        Naming.protoImportPath layout.base layout.genDir target.file.name := by
    have directory := (outDirectory_of_mem_standardInvocations protoStandard).1 protoName
    rw [Naming.protoImportPath_eq relativeGenDir, ← directory]
    rfl
  have embeds : EmbedsPaths toolchain request run.parameters _ _ _ :=
    embedsPaths_of_target again (identifiers target member)
  rw [record] at embeds ⊢
  rw [image, implementation, messages]
  exact embeds

/-- The artifacts of one of two methods, in a layout that is not clean. -/
theorem embedded_paths_agree_users :
    let layout : Parameters := { base := "acme.dev//repo", genDir := "../gen/./code" }
    let target := Request.users.targets[1]
    let invocation (position : Fin 5) := (standardInvocations layout)[position]
    let entrypointRun := planTarget "entrypoint" (invocation 1).parameters .perMethod target
    let methodsRun := planTarget "methods" (invocation 4).parameters .perMethod target
    let run := planTarget "config" (invocation 2).parameters .shared target
    EmbedsPaths default Request.users run.parameters
      (join [layout.base, entrypointRun.parameters.nestedDirectory])
      (join [layout.base, methodsRun.parameters.nestedDirectory])
      (join [layout.base, (invocation 0).parameters.nestedDirectory,
        Path.parent target.file.name]) := by
  intro layout target invocation entrypointRun methodsRun run
  have standard (position : Fin 5) : invocation position ∈ standardInvocations layout :=
    List.getElem_mem _
  have found : Request.users.targets[1]? = some target := rfl
  have planned : (planAll "config" (invocation 2).parameters Request.users .shared)[1]? =
      some run := rfl
  exact embedded_paths_agree (by decide) (by decide) (by decide) (by decide) (standard 0) rfl
    (standard 1) rfl (standard 4) rfl (standard 2) found rfl rfl planned

end MethodForge
