/-
Module: MethodForge.Proofs.DispatchFile.Scaffolded
Purpose: The tree of `methods` ends in scaffolds. A run of `methods` on every method plans a run of
  itself for each of them, and that one leaves a directive for `scaffold`. The record goes through
  its text form twice and the method is looked up twice, and nothing is lost on the way: what is
  scaffolded in the end is what would have been scaffolded if `scaffold` had been planned at the
  start.
Main exports: packageClause?, DispatchFile.tidy_text_withoutEmptyEnd,
  DispatchFile.readCommands_tidy_of_solid, EndsInScaffold, methods_tree_ends_in_scaffolds
-/
import MethodForge.Proofs.DispatchFile.ReadBack
import MethodForge.Proofs.PlannedAgreement
import MethodForge.Proofs.Text.Lowercase

namespace MethodForge

open Go (ScaffoldFile)
open Schema (Request Target)
open Text (IsWord Neat Solid after? after?_append)

/-- The package that the first line of a Go file names. -/
def packageClause? (content : String) : Option String :=
  (Text.linesOf content).head?.bind fun line =>
    (after? "package ".toList line).map String.ofList

theorem packageClause?_tidy_unlines {package : String} (word : IsWord package)
    (rest : List String) :
    packageClause? (Text.tidy (Text.unlines (("package " ++ package) :: rest))) = some package := by
  have neat : Neat ("package " ++ package) := Text.neat_append_word (by decide) word
  rw [packageClause?, Text.head?_linesOf_tidy_unlines neat (by simp), Option.bind_some,
    String.toList_append, after?_append, Option.map_some, String.ofList_toList]

theorem DispatchFile.packageClause?_text {file : DispatchFile} (word : IsWord file.package) :
    packageClause? (Text.tidy file.text) = some file.package :=
  packageClause?_tidy_unlines word _

theorem Go.ScaffoldFile.packageClause?_text {file : ScaffoldFile} (word : IsWord file.package) :
    packageClause? (Text.tidy file.text) = some file.package := by
  rw [ScaffoldFile.text, ScaffoldFile.lines]
  exact packageClause?_tidy_unlines word _

/-! ### Names that are empty -/

namespace DispatchFile

/-- The file without the empty names that end the list of files to generate for. -/
def withoutEmptyEnd (file : DispatchFile) : DispatchFile :=
  { file with protos := file.protos.rdropWhile String.isEmpty }

variable {file : DispatchFile}

section

variable (solid : ∀ run ∈ file.runs, ∀ word ∈ (file.commandOf run).words, Solid word)
include solid

/-- Trimmed, a directive ends in its option or in the last name that is not empty. -/
theorem trimEnd_directive {run : PlannedRun} (member : run ∈ file.runs) :
    Text.trimEnd (directive (file.commandOf run).text) =
      directive (file.withoutEmptyEnd.commandOf run).text := by
  let fixed : Command := file.toolchain.forgeCommand run.directory run.parameters []
  have parts (protos : List String) :
      (file.toolchain.forgeCommand run.directory run.parameters protos).words =
        fixed.words ++ protos := by
    simp only [fixed, words_forgeCommand, List.append_nil]
  have fixedSolid : ∀ word ∈ fixed.words, Solid word := by
    intro word inFixed
    refine solid run member word ?_
    rw [DispatchFile.commandOf, parts]
    exact List.mem_append_left _ inFixed
  have protosSolid : ∀ word ∈ file.protos, Solid word := by
    intro word inProtos
    refine solid run member word ?_
    rw [DispatchFile.commandOf, parts]
    exact List.mem_append_right _ inProtos
  have ended : IsWord (fixed.words.getLast (words_ne_nil fixed)) := by
    refine ⟨?_, fixedSolid _ (List.getLast_mem _)⟩
    simp [fixed, words_forgeCommand]
  have start : Neat ("//go:generate " ++ " ".intercalate fixed.words) :=
    Text.neat_append_words (by decide) fixedSolid ended
  have trimmed := Text.trimEnd_append_words (words_ne_nil fixed) start protosSolid
  rw [← parts, ← parts] at trimmed
  exact trimmed

/-- No line holds a line feed. -/
theorem closed_of_mem_lines (package : IsWord file.package)
    (directories : ∀ run ∈ file.runs, IsWord run.directory) :
    ∀ line ∈ file.lines, '\n' ∉ line.toList := by
  intro line member
  rcases eq_of_mem_lines member with rfl | ⟨run, inFile, rfl | rfl | rfl⟩
  · exact (Text.neat_append_word (by decide) package).1
  · decide
  · rw [directive, ← String.append_assoc]
    exact (Text.neat_append_word (by decide) (directories run inFile)).1
  · exact Text.closed_append_intercalate (by decide) (solid run inFile)

/-- Trimming the lines of a file takes nothing away but the empty names at the ends of its
directives. -/
theorem map_trimEnd_lines (package : IsWord file.package)
    (directories : ∀ run ∈ file.runs, IsWord run.directory) :
    file.lines.map Text.trimEnd = file.withoutEmptyEnd.lines := by
  have first : Text.trimEnd ("package " ++ file.package) = "package " ++ file.package :=
    Text.trimEnd_of_neat (Text.neat_append_word (by decide) package)
  have each (run : PlannedRun) (member : run ∈ file.runs) :
      (file.runLines run).map Text.trimEnd = file.withoutEmptyEnd.runLines run := by
    have creates : Text.trimEnd (directive ("mkdir -p " ++ run.directory)) =
        directive ("mkdir -p " ++ run.directory) := by
      rw [directive, ← String.append_assoc]
      exact Text.trimEnd_of_neat (Text.neat_append_word (by decide) (directories run member))
    have compiles := trimEnd_directive solid member
    rw [commandOf, commandOf] at compiles
    have empty : Text.trimEnd "" = "" := rfl
    cases create : file.createsDirectories with
    | true =>
        simp only [runLines, withoutEmptyEnd, create, if_true, List.map_cons, List.map_append,
          List.map_nil, empty, creates, compiles]
    | false =>
        simp only [runLines, withoutEmptyEnd, create, Bool.false_eq_true, if_false, List.map_cons,
          List.map_append, List.map_nil, empty, compiles]
  rw [lines, lines, List.map_cons, first, List.map_flatMap]
  exact congrArg _ (List.flatMap_congr each)

/-- The empty names at the ends of directives do not matter to what is written. -/
theorem tidy_text_withoutEmptyEnd (package : IsWord file.package)
    (directories : ∀ run ∈ file.runs, IsWord run.directory) :
    Text.tidy file.text = Text.tidy file.withoutEmptyEnd.text := by
  rw [text, text, ← map_trimEnd_lines solid package directories,
    Text.tidy_unlines_map_trimEnd (closed_of_mem_lines solid package directories)]

/-- A file without blanks is read as the commands of its runs, up to the empty names at the ends of its
directives. -/
theorem readCommands_tidy_of_solid (package : IsWord file.package)
    (directories : ∀ run ∈ file.runs, IsWord run.directory) :
    readCommands (Text.tidy file.text) =
      file.runs.map fun run => (file.withoutEmptyEnd.commandOf run).words := by
  have closed := closed_of_mem_lines solid package directories
  have trimmed := map_trimEnd_lines solid package directories
  rw [tidy_text_withoutEmptyEnd solid package directories]
  refine readCommands_tidy_of_neat ?_ ?_
  · intro line member
    rw [← trimmed] at member
    obtain ⟨whole, inFile, rfl⟩ := List.mem_map.1 member
    exact Text.neat_trimEnd (closed whole inFile)
  · intro run member word inCommand
    refine solid run member word ?_
    rw [commandOf, words_forgeCommand, List.mem_append] at inCommand ⊢
    exact inCommand.imp_right fun inProtos => (List.rdropWhile_prefix _ _).subset inProtos

end

end DispatchFile

/-! ### The tree -/

/-- What is said of a run that `methods` has planned for a method, and of the run of `scaffold` that
would have been planned in its place. -/
structure EndsInScaffold (toolchain : Toolchain) (registry : Registry) (request : Request)
    (run element : PlannedRun) : Prop where
  /-- The record survives its text form. -/
  survives : Parameters.decode run.parameters.encode = .ok run.parameters
  /-- The run leaves a file with a single directive, which has `scaffold` write where the file is. The
  record in it, read back, is the record of the other run. -/
  directive : ∃ content command encoded,
    ((methodsGenerator toolchain).generate run.parameters request).value =
        .ok [⟨DispatchFile.fileName, content⟩] ∧
      readCommands content = [command] ∧
      optionValue? "--scaffold_out=" command = some "." ∧
      optionValue? "--scaffold_opt=" command = some encoded ∧
      Parameters.decode encoded = .ok element.parameters ∧
      packageClause? content = some (Naming.methodPackage run.parameters.method)
  /-- Both runs have the same output directory. -/
  directory : element.parameters.nestedDirectory = run.parameters.nestedDirectory
  /-- With the record, `scaffold` gives what the other run gives when it is made at once, in the
  package of the directive. -/
  scaffold : ∃ main,
    (scaffoldGenerator.generate element.parameters request).value = .ok [⟨goFileName, main⟩] ∧
      (registry.renderOne element request).value =
        .ok [⟨Path.join [element.directory, goFileName], main⟩] ∧
      packageClause? main = some (Naming.methodPackage run.parameters.method)

section

variable {toolchain : Toolchain} {registry : Registry} {parameters : Parameters}
  {request : Request} {target found : Target}

/-- What `methods` writes for a single method is read as one command, which has `scaffold` write where
the file is. -/
theorem readCommands_scaffoldDispatch (tools : toolchain.WithoutBlanks)
    (package : IsWord (Naming.methodPackage target.methodName))
    (protos : ∀ proto ∈ protoArguments parameters request, Solid proto) :
    ∃ command,
      readCommands (Text.tidy (scaffoldDispatch toolchain parameters request target).text) =
          [command] ∧
        optionValue? "--scaffold_out=" command = some "." ∧
        optionValue? "--scaffold_opt=" command =
          some (parameters.withTarget "scaffold" target.serviceName target.methodName
            parameters.nestedDirectory).encode := by
  let file := scaffoldDispatch toolchain parameters request target
  have here : IsWord "." := by decide
  have read : readCommands (Text.tidy file.text) =
      file.runs.map fun run => (file.withoutEmptyEnd.commandOf run).words := by
    refine DispatchFile.readCommands_tidy_of_solid ?_ package ?_
    · intro run member
      rw [List.mem_singleton.1 member]
      exact solid_of_mem_forgeCommand tools (show Solid "scaffold" by decide) here.2 protos
    · intro run member
      rw [List.mem_singleton.1 member]
      exact here
  let record := parameters.withTarget "scaffold" target.serviceName target.methodName
    parameters.nestedDirectory
  let command := toolchain.forgeCommand "." record file.withoutEmptyEnd.protos
  have free : '=' ∉ record.name.toList := show '=' ∉ "scaffold".toList by decide
  have out : optionValue? ("--" ++ record.name ++ "_out=") command.words = some "." :=
    optionValue?_out free
  have option : optionValue? ("--" ++ record.name ++ "_opt=") command.words = some record.encode :=
    optionValue?_forgeCommand free
  have outKey : "--" ++ record.name ++ "_out=" = "--scaffold_out=" := by
    rw [show record.name = "scaffold" from rfl]
    decide
  have optionKey : "--" ++ record.name ++ "_opt=" = "--scaffold_opt=" := by
    rw [show record.name = "scaffold" from rfl]
    decide
  rw [outKey] at out
  rw [optionKey] at option
  exact ⟨command.words, read, out, option⟩

/-- What `scaffold` gives for a planned run, through its record and at once. -/
theorem scaffold_of_planned {element : PlannedRun}
    (known : registry.lookup element.parameters.name = some scaffoldGenerator)
    (finds : element.parameters.target request = .ok found)
    (package : IsWord (Naming.methodPackage found.methodName)) :
    ∃ main,
      (scaffoldGenerator.generate element.parameters request).value = .ok [⟨goFileName, main⟩] ∧
        (registry.renderOne element request).value =
          .ok [⟨Path.join [element.directory, goFileName], main⟩] ∧
        packageClause? main = some (Naming.methodPackage found.methodName) := by
  have generated := scaffoldGenerator_single finds
  have rendered := renderOne_of_lookup known generated
  dsimp only at rendered
  exact ⟨_, generated, rendered, ScaffoldFile.packageClause?_text package⟩

/-- A run that `methods` has planned for a target ends in the run of `scaffold` on the target. -/
theorem endsInScaffold (known : registry.lookup "scaffold" = some scaffoldGenerator)
    (tools : toolchain.WithoutBlanks) (service : IsWord target.serviceName)
    (method : IsWord target.methodName)
    (search : request.findTarget? target.serviceName target.methodName = some found)
    (protos : ∀ proto ∈ protoArguments (planTarget "methods" parameters .perMethod target).parameters
      request, Solid proto) :
    EndsInScaffold toolchain registry request (planTarget "methods" parameters .perMethod target)
      (planTarget "scaffold" parameters .perMethod target) := by
  let run := planTarget "methods" parameters .perMethod target
  let element := planTarget "scaffold" parameters .perMethod target
  obtain ⟨-, sameService, sameMethod⟩ := Schema.names_of_findTarget? search
  have runTarget : run.parameters.target request = .ok found :=
    parameters.target_withTarget service.1 search _ _
  have elementTarget : element.parameters.target request = .ok found :=
    parameters.target_withTarget service.1 search _ _
  -- The directive names what the look-up has found, and that has the names that were looked up.
  have carried : run.parameters.withTarget "scaffold" found.serviceName found.methodName
      run.parameters.nestedDirectory = element.parameters := by
    rw [sameService, sameMethod]
    rfl
  have package : IsWord (Naming.methodPackage found.methodName) := by
    rw [sameMethod]
    exact method.lowercase
  have clause : Naming.methodPackage found.methodName =
      Naming.methodPackage run.parameters.method := by
    rw [sameMethod]
    rfl
  constructor
  · exact Parameters.decode_encode_of_isWhole (parameters.isWhole_withTarget service.1 method.1 _ _)
  · obtain ⟨command, read, out, option⟩ :=
      readCommands_scaffoldDispatch tools package protos
    rw [carried] at option
    refine ⟨_, command, _, methodsGenerator_single runTarget, read, out, option, ?_, ?_⟩
    · exact Parameters.decode_encode_of_isWhole
        (parameters.isWhole_withTarget service.1 method.1 _ _)
    · rw [← clause]
      exact DispatchFile.packageClause?_text package
  · rfl
  · rw [← clause]
    exact scaffold_of_planned known elementTarget package

end

/-- The two levels of the tree of `methods` end where `scaffold` would have been planned to write, with
what it would have written. -/
theorem methods_tree_ends_in_scaffolds {toolchain : Toolchain} {start filled : Registry}
    (granted : (start.claimAll (builtinGenerators toolchain)).value = (filled, none))
    (tools : toolchain.WithoutBlanks) {parameters : Parameters} (every : parameters.mode = .every)
    {request : Request}
    (named : ∀ target ∈ request.targets, IsWord target.serviceName ∧ IsWord target.methodName) :
    let file :=
      everyMethodFile toolchain (methodsGenerator toolchain) .perMethod parameters request
    let elements := planAll "scaffold" parameters request .perMethod
    ((methodsGenerator toolchain).generate parameters request).value = .ok (dispatchOutput file) ∧
      ∀ (position : Nat) (run : PlannedRun), file.runs[position]? = some run →
        (∀ proto ∈ protoArguments run.parameters request, Solid proto) →
        ∃ element, elements[position]? = some element ∧
          EndsInScaffold toolchain filled request run element := by
  intro file elements
  refine ⟨methodsGenerator_every every, fun position run planned protos => ?_⟩
  have runs : file.runs = request.targets.map (planTarget "methods" parameters .perMethod) := rfl
  rw [runs, List.getElem?_map, Option.map_eq_some_iff] at planned
  obtain ⟨target, there, rfl⟩ := planned
  have member : target ∈ request.targets := List.mem_of_getElem? there
  obtain ⟨service, method⟩ := named target member
  obtain ⟨found, search⟩ := Schema.findTarget?_of_mem member
  have builtin : scaffoldGenerator ∈ builtinGenerators toolchain := by simp [builtinGenerators]
  have known : filled.lookup "scaffold" = some scaffoldGenerator :=
    Registry.lookup_claimAll granted builtin
  refine ⟨planTarget "scaffold" parameters .perMethod target, ?_,
    endsInScaffold known tools service method search protos⟩
  exact List.getElem?_map.trans (congrArg _ there)

/-- The tree for the second of two methods, under a root whose import path holds a line feed. -/
theorem methods_tree_ends_in_scaffolds_users :
    let toolchain := Toolchain.ofRoot "/opt/forge"
    let parameters : Parameters := { base := "a b\n", nestedDirectory := "pkg/methods" }
    let run := planTarget "methods" parameters .perMethod Request.users.targets[1]
    (∀ proto ∈ protoArguments run.parameters Request.users, Solid proto) ∧
      ∃ element,
        (planAll "scaffold" parameters Request.users .perMethod)[1]? = some element ∧
          EndsInScaffold toolchain (Registry.builtin toolchain).value Request.users run element := by
  intro toolchain parameters run
  have tools : toolchain.WithoutBlanks := ⟨by decide, by decide, by decide, by decide⟩
  have every : parameters.mode = .every := by decide
  have named : ∀ target ∈ Request.users.targets,
      IsWord target.serviceName ∧ IsWord target.methodName := by decide
  have protos : ∀ proto ∈ protoArguments run.parameters Request.users, Solid proto := by decide
  obtain ⟨-, ends⟩ :=
    methods_tree_ends_in_scaffolds (Registry.claimAll_builtin toolchain) tools every named
  exact ⟨protos, ends 1 run rfl protos⟩

end MethodForge
