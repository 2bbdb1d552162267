/-
Module: MethodForge.Proofs.DispatchFile.ReadBack
Purpose: A file of directives is read back into its plan. Nothing in it is quoted, so this takes that
  the programs, the directories and the files to generate for are words. The record of a run may hold
  anything: its text form is one word, whatever the fields are, so it can neither end a line nor cut
  an argument in two.
Main exports: readCommands, optionValue?, solid_of_mem_forgeCommand, optionValue?_out,
  optionValue?_forgeCommand, readCommands_tidy_of_neat, readCommands_tidy,
  dispatch_file_reads_back
-/
import MethodForge.Proofs.DispatchFile.Written
import MethodForge.Proofs.Path.Escape
import MethodForge.Proofs.Text.Lines

namespace MethodForge

open Schema (Request Target)
open Text (IsWord Neat Solid after? after?_append)

/-! ### Reading -/

/-- The command that a line has `go generate` run, unless it only creates a directory. -/
def compilerCommand? (line : List Char) : Option (List Char) :=
  match after? "//go:generate ".toList line with
  | none => none
  | some command => if "mkdir -p ".toList <+: command then none else some command

/-- The commands in a file of directives, each cut at the spaces into its program and arguments. -/
def readCommands (content : String) : List (List String) :=
  ((Text.linesOf content).filterMap compilerCommand?).map fun command =>
    (command.splitOn ' ').map String.ofList

/-- The value of the first argument that starts with `option`. -/
def optionValue? (option : String) (command : List String) : Option String :=
  command.tail.findSome? fun argument =>
    (after? option.toList argument.toList).map String.ofList

theorem compilerCommand?_directive {command : String}
    (compiles : ¬ "mkdir -p ".toList <+: command.toList) :
    compilerCommand? (DispatchFile.directive command).toList = some command.toList := by
  rw [compilerCommand?, DispatchFile.directive, String.toList_append, after?_append]
  exact if_neg compiles

theorem compilerCommand?_createDirectory (directory : String) :
    compilerCommand? (DispatchFile.directive ("mkdir -p " ++ directory)).toList = none := by
  rw [compilerCommand?, DispatchFile.directive, String.toList_append, after?_append,
    String.toList_append]
  exact if_pos (List.prefix_append _ _)

theorem compilerCommand?_package (package : String) :
    compilerCommand? ("package " ++ package).toList = none := by
  simp [compilerCommand?, after?]

theorem compilerCommand?_empty : compilerCommand? "".toList = none := by
  simp [compilerCommand?, after?]

/-! ### Commands without blanks -/

theorem words_ne_nil (command : Command) : command.words ≠ [] :=
  List.cons_ne_nil _ _

/-- A command whose words hold no space is cut at the spaces into its program and arguments. -/
theorem splitOn_text {command : Command} (apart : ∀ word ∈ command.words, ' ' ∉ word.toList) :
    (command.text.toList.splitOn ' ').map String.ofList = command.words := by
  have cut := Text.splitOn_space_intercalate (words_ne_nil command) apart
  rw [Command.text, ← Command.words, cut, List.map_map]
  simp [Function.comp_def]

/-- A command whose first argument is an include directory creates no directory. -/
theorem not_createsDirectory {command : Command} {directory : String} {others : List String}
    (arguments : command.arguments = ("-I" ++ directory) :: others)
    (solid : ∀ word ∈ command.words, Solid word) :
    ¬ "mkdir -p ".toList <+: command.text.toList := by
  -- Cut at the spaces, the command would have `-p` where its first argument is.
  rintro ⟨rest, same⟩
  have cut := Text.splitOn_space_intercalate (words_ne_nil command) fun word member =>
    (solid word member).not_mem (by decide)
  have shape : "mkdir -p ".toList ++ rest =
      ['m', 'k', 'd', 'i', 'r'] ++ ' ' :: (['-', 'p'] ++ ' ' :: rest) := rfl
  rw [Command.text, ← Command.words] at same
  rw [← same, shape, List.splitOn_append_cons_self_of_not_mem (by decide),
    List.splitOn_append_cons_self_of_not_mem (by decide), Command.words, arguments] at cut
  simp at cut

/-- Whether the programs and directories that a command of the forge names are words. -/
structure Toolchain.InWords (toolchain : Toolchain) : Prop where
  protoc : IsWord toolchain.protoc
  protocInclude : IsWord toolchain.protocInclude
  optionsInclude : IsWord toolchain.optionsInclude
  plugin : IsWord toolchain.plugin

/-- Whether the programs and directories that a command of the forge names have no blanks in them. -/
structure Toolchain.WithoutBlanks (toolchain : Toolchain) : Prop where
  protoc : Solid toolchain.protoc
  protocInclude : Solid toolchain.protocInclude
  optionsInclude : Solid toolchain.optionsInclude
  plugin : Solid toolchain.plugin

theorem Toolchain.InWords.withoutBlanks {toolchain : Toolchain} (tools : toolchain.InWords) :
    toolchain.WithoutBlanks :=
  ⟨tools.protoc.2, tools.protocInclude.2, tools.optionsInclude.2, tools.plugin.2⟩

section

variable {toolchain : Toolchain} {record : Parameters} {out : String} {protos : List String}

theorem words_forgeCommand : (toolchain.forgeCommand out record protos).words =
    [ toolchain.protoc,
      "-I" ++ toolchain.protocInclude,
      "-I" ++ toolchain.optionsInclude,
      "-I" ++ Path.toRoot out record.nestedDirectory,
      "--plugin=protoc-gen-" ++ record.name ++ "=" ++ toolchain.plugin,
      "--" ++ record.name ++ "_out=" ++ out,
      "--" ++ record.name ++ "_opt=" ++ record.encode ] ++ protos := rfl

/-- A command of the forge has no blanks in it, whatever else its record holds. -/
theorem solid_of_mem_forgeCommand (tools : toolchain.WithoutBlanks) (name : Solid record.name)
    (place : Solid out) (files : ∀ proto ∈ protos, Solid proto) :
    ∀ word ∈ (toolchain.forgeCommand out record protos).words, Solid word := by
  have includes : Solid "-I" := by decide
  have plugin : Solid "--plugin=protoc-gen-" := by decide
  have option : Solid ("--" ++ record.name) := Solid.append (by decide) name
  have outKey : Solid "_out=" := by decide
  have optionKey : Solid "_opt=" := by decide
  have equals : Solid "=" := by decide
  intro word member
  simp only [words_forgeCommand, List.cons_append, List.nil_append, List.mem_cons] at member
  rcases member with rfl | rfl | rfl | rfl | rfl | rfl | rfl | inProtos
  · exact tools.protoc
  · exact includes.append tools.protocInclude
  · exact includes.append tools.optionsInclude
  · exact includes.append (Path.isWord_toRoot _ _).2
  · exact ((plugin.append name).append equals).append tools.plugin
  · exact (option.append outKey).append place
  · exact (option.append optionKey).append record.solid_encode
  · exact files word inProtos

/-- A command of the forge is made of words when its program and the files to generate for are. -/
theorem isWord_of_mem_forgeCommand (tools : toolchain.InWords) (name : Solid record.name)
    (place : Solid out) (files : ∀ proto ∈ protos, IsWord proto) :
    ∀ word ∈ (toolchain.forgeCommand out record protos).words, IsWord word := by
  intro word member
  refine ⟨?_, solid_of_mem_forgeCommand tools.withoutBlanks name place
    (fun proto inProtos => (files proto inProtos).2) word member⟩
  simp only [words_forgeCommand, List.cons_append, List.nil_append, List.mem_cons] at member
  rcases member with rfl | rfl | rfl | rfl | rfl | rfl | rfl | inProtos
  · exact tools.protoc.1
  · simp
  · simp
  · simp
  · simp
  · simp
  · simp
  · exact (files word inProtos).1

/-- What is asked of an option of the run is not found in that of the plugin: before their first
equals signs, the one ends in `t` and the other one in `n`. -/
theorem after?_plugin {name : String} (free : '=' ∉ name.toList) {ending : String}
    (kind : ending ∈ ["_out=", "_opt="]) (plugin : String) :
    after? ("--" ++ name ++ ending).toList
      ("--plugin=protoc-gen-" ++ name ++ "=" ++ plugin).toList = none := by
  obtain ⟨stem, stemFree, stemLast, rfl⟩ : ∃ stem : String, '=' ∉ stem.toList ∧
      stem.toList.getLast? = some 't' ∧ ending = stem ++ "=" := by
    simp only [List.mem_cons, List.not_mem_nil, or_false] at kind
    rcases kind with rfl | rfl
    · exact ⟨"_out", by decide, by decide, rfl⟩
    · exact ⟨"_opt", by decide, by decide, rfl⟩
  refine if_neg ?_
  rintro ⟨tail, same⟩
  have left : ("--" ++ name ++ (stem ++ "=")).toList ++ tail =
      ("--" ++ name ++ stem).toList ++ '=' :: tail := by simp
  have right : ("--plugin=protoc-gen-" ++ name ++ "=" ++ plugin).toList =
      "--plugin".toList ++ '=' :: ("protoc-gen-" ++ name ++ "=" ++ plugin).toList := by simp
  have leftFree : '=' ∉ ("--" ++ name ++ stem).toList := by simp [free, stemFree]
  have before := congrArg (fun text => (text.splitOn '=').head?.bind List.getLast?) same
  simp only [left, right, List.splitOn_append_cons_self_of_not_mem leftFree,
    List.splitOn_append_cons_self_of_not_mem (show '=' ∉ "--plugin".toList by decide)] at before
  simp [List.getLast?_cons, List.getLast?_append, stemLast] at before

theorem after?_include (name ending directory : String) :
    after? ("--" ++ name ++ ending).toList ("-I" ++ directory).toList = none := by
  simp [after?]

theorem after?_option (name ending value : String) :
    after? ("--" ++ name ++ ending).toList ("--" ++ name ++ ending ++ value).toList =
      some value.toList := by
  rw [String.toList_append (s := "--" ++ name ++ ending) (t := value), after?_append]

theorem after?_out (name value : String) :
    after? ("--" ++ name ++ "_opt=").toList ("--" ++ name ++ "_out=" ++ value).toList = none := by
  simp [after?]

/-- The output directory is found under the option for it. -/
theorem optionValue?_out (free : '=' ∉ record.name.toList) :
    optionValue? ("--" ++ record.name ++ "_out=") (toolchain.forgeCommand out record protos).words =
      some out := by
  have out : "_out=" ∈ ["_out=", "_opt="] := by decide
  have plugin := after?_plugin free out toolchain.plugin
  simp only [optionValue?, words_forgeCommand, List.cons_append, List.tail_cons,
    List.findSome?_cons, after?_include, after?_option, plugin, Option.map_none, Option.map_some,
    String.ofList_toList]

/-- The text form of the record is found under the option of the run. -/
theorem optionValue?_forgeCommand (free : '=' ∉ record.name.toList) :
    optionValue? ("--" ++ record.name ++ "_opt=") (toolchain.forgeCommand out record protos).words =
      some record.encode := by
  have option : "_opt=" ∈ ["_out=", "_opt="] := by decide
  have plugin := after?_plugin free option toolchain.plugin
  simp only [optionValue?, words_forgeCommand, List.cons_append, List.tail_cons,
    List.findSome?_cons, after?_include, after?_out, after?_option, plugin, Option.map_none,
    Option.map_some, String.ofList_toList]

end

/-! ### Files made of words -/

namespace DispatchFile

/-- Whether everything that a file writes is made of words. -/
structure InWords (file : DispatchFile) : Prop where
  package : IsWord file.package
  directories : ∀ run ∈ file.runs, IsWord run.directory
  commands : ∀ run ∈ file.runs, ∀ word ∈ (file.commandOf run).words, IsWord word

variable {file : DispatchFile}

section

variable (solid : ∀ run ∈ file.runs, ∀ word ∈ (file.commandOf run).words, Solid word)
include solid

/-- The lines for a run hold one command of the compiler, that of the run. -/
theorem filterMap_runLines {run : PlannedRun} (member : run ∈ file.runs) :
    ((file.runLines run).map String.toList).filterMap compilerCommand? =
      [(file.commandOf run).text.toList] := by
  have compiles : compilerCommand? (directive (file.commandOf run).text).toList =
      some (file.commandOf run).text.toList :=
    compilerCommand?_directive (not_createsDirectory rfl (solid run member))
  have command : file.toolchain.forgeCommand run.directory run.parameters file.protos =
      file.commandOf run := rfl
  rw [runLines, command, List.map_cons, List.filterMap_cons_none compilerCommand?_empty,
    List.map_append, List.filterMap_append, List.map_singleton,
    List.filterMap_cons_some compiles, List.filterMap_nil]
  cases file.createsDirectories with
  | true =>
      rw [if_pos rfl, List.map_singleton,
        List.filterMap_cons_none (compilerCommand?_createDirectory run.directory)]
      rfl
  | false => rfl

/-- The lines of a file hold the commands of its runs, in their order. -/
theorem filterMap_lines :
    (file.lines.map String.toList).filterMap compilerCommand? =
      file.runs.map fun run => (file.commandOf run).text.toList := by
  have each : ∀ runs : List PlannedRun, (∀ run ∈ runs, run ∈ file.runs) →
      ((runs.flatMap file.runLines).map String.toList).filterMap compilerCommand? =
        runs.map fun run => (file.commandOf run).text.toList := by
    intro runs within
    induction runs with
    | nil => rfl
    | cons run rest ih =>
        have first := filterMap_runLines solid (within run List.mem_cons_self)
        have later := ih fun other member => within other (List.mem_cons_of_mem _ member)
        rw [List.flatMap_cons, List.map_append, List.filterMap_append, first, later, List.map_cons,
          List.singleton_append]
  rw [lines, List.map_cons, List.filterMap_cons_none (compilerCommand?_package file.package)]
  exact each file.runs fun _ member => member

end

/-- The lines of a file are neat. -/
theorem neat_of_mem_lines (inWords : file.InWords) : ∀ line ∈ file.lines, Neat line := by
  intro line member
  rcases eq_of_mem_lines member with rfl | ⟨run, inFile, rfl | rfl | rfl⟩
  · exact Text.neat_append_word (by decide) inWords.package
  · decide
  · rw [directive, ← String.append_assoc]
    exact Text.neat_append_word (by decide) (inWords.directories run inFile)
  · rw [directive, Command.text]
    have words := inWords.commands run inFile
    exact Text.neat_append_words (by decide) (fun word member => (words word member).2)
      (words _ (List.getLast_mem (words_ne_nil _)))

/-- The last line of a file is not empty. -/
theorem getLast?_lines (file : DispatchFile) : file.lines.getLast? ≠ some "" := by
  -- By induction on the runs, for any first line: the last line of a run takes its place.
  have each : ∀ (runs : List PlannedRun) (start : String), start ≠ "" →
      (start :: runs.flatMap file.runLines).getLast? ≠ some "" := by
    intro runs
    induction runs with
    | nil => simp
    | cons run rest ih =>
        intro start nonempty
        have last := ih (directive (file.commandOf run).text) (by simp [directive])
        have shape : start :: (run :: rest).flatMap file.runLines =
            (start :: "" :: if file.createsDirectories then
              [directive ("mkdir -p " ++ run.directory)] else []) ++
              directive (file.commandOf run).text :: rest.flatMap file.runLines := by
          simp [runLines, commandOf]
        rw [shape, List.getLast?_append]
        rw [List.getLast?_cons] at last ⊢
        exact last
  exact each file.runs _ (by simp)

/-- A tidied file without blanks in its commands is read as the commands of its runs, if its lines are
neat. -/
theorem readCommands_tidy_of_neat (neat : ∀ line ∈ file.lines, Neat line)
    (solid : ∀ run ∈ file.runs, ∀ word ∈ (file.commandOf run).words, Solid word) :
    readCommands (Text.tidy file.text) = file.runs.map fun run => (file.commandOf run).words := by
  rw [readCommands, text, Text.linesOf_tidy_unlines neat (getLast?_lines file),
    filterMap_lines solid, List.map_map]
  exact List.map_congr_left fun run member =>
    splitOn_text fun word inWords => (solid run member word inWords).not_mem (by decide)

/-- A tidied file of words is read as the commands of its runs. -/
theorem readCommands_tidy (inWords : file.InWords) :
    readCommands (Text.tidy file.text) = file.runs.map fun run => (file.commandOf run).words :=
  readCommands_tidy_of_neat (neat_of_mem_lines inWords) fun run member word inCommand =>
    (inWords.commands run member word inCommand).2

end DispatchFile

/-! ### Files for every method -/

section

variable {toolchain : Toolchain} {parameters : Parameters} {request : Request}
  {generator : Generator} {fanout : Fanout}

theorem name_of_mem_dispatchers (dispatcher : (generator, fanout) ∈ dispatchers toolchain) :
    generator.name ∈ ["methods", "entrypoint", "config"] := by
  simp only [dispatchers, List.mem_cons, List.not_mem_nil, or_false, Prod.mk.injEq] at dispatcher
  rcases dispatcher with ⟨rfl, -⟩ | ⟨rfl, -⟩ | ⟨rfl, -⟩
  · exact (by decide : "methods" ∈ ["methods", "entrypoint", "config"])
  · exact (by decide : "entrypoint" ∈ ["methods", "entrypoint", "config"])
  · exact (by decide : "config" ∈ ["methods", "entrypoint", "config"])

/-- The file for every method is made of words when the programs, the directories and the files to
generate for are. -/
theorem inWords_everyMethodFile (dispatcher : (generator, fanout) ∈ dispatchers toolchain)
    (tools : toolchain.InWords)
    (directories : ∀ target ∈ request.targets,
      IsWord (Naming.methodDirectory target.serviceName target.methodName))
    (protos : ∀ proto ∈ protoArguments parameters request, IsWord proto) :
    (everyMethodFile toolchain generator fanout parameters request).InWords := by
  have names : ∀ name ∈ ["methods", "entrypoint", "config"], IsWord name := by decide
  have name : IsWord generator.name := names generator.name (name_of_mem_dispatchers dispatcher)
  have places : ∀ run ∈ planAll generator.name parameters request fanout, IsWord run.directory := by
    intro run member
    obtain ⟨target, inRequest, rfl⟩ := mem_planAll member
    cases fanout with
    | perMethod => exact directories target inRequest
    | shared => exact (by decide : IsWord ".")
  refine ⟨name, places, fun run member => ?_⟩
  refine isWord_of_mem_forgeCommand tools ?_ (places run member).2 protos
  rw [name_of_mem_planAll member]
  exact name.2

/-- What a generator writes for every method is read back as its plan: one command for each method,
in the order of the methods, made of the program and the arguments that the plan gives, and with the
record of the planned run under the option of the generator. -/
theorem dispatch_file_reads_back (dispatcher : (generator, fanout) ∈ dispatchers toolchain)
    (every : parameters.mode = .every) (tools : toolchain.InWords)
    (named : ∀ target ∈ request.targets, target.Named)
    (directories : ∀ target ∈ request.targets,
      IsWord (Naming.methodDirectory target.serviceName target.methodName))
    (protos : ∀ proto ∈ protoArguments parameters request, IsWord proto) :
    ∃ content, (generator.generate parameters request).value =
        .ok [⟨DispatchFile.fileName, content⟩] ∧
      readCommands content =
        (planAll generator.name parameters request fanout).map (fun run =>
          (toolchain.forgeCommand run.directory run.parameters
            (protoArguments parameters request)).words) ∧
      (readCommands content).map (fun command =>
          (optionValue? ("--" ++ generator.name ++ "_opt=") command).map Parameters.decode) =
        (planAll generator.name parameters request fanout).map (fun run =>
          some (.ok run.parameters)) ∧
      (planAll generator.name parameters request fanout).map (fun run =>
          (run.parameters.service, run.parameters.method)) =
        request.targets.map Target.names := by
  have inWords := inWords_everyMethodFile dispatcher tools directories protos
  have read := DispatchFile.readCommands_tidy inWords
  refine ⟨_, generate_dispatcher dispatcher every, read, ?_, ?_⟩
  · rw [read, List.map_map]
    refine List.map_congr_left fun run member => ?_
    have name : run.parameters.name = generator.name := name_of_mem_planAll member
    have free : '=' ∉ run.parameters.name.toList := by
      have names : ∀ name ∈ ["methods", "entrypoint", "config"], '=' ∉ name.toList := by decide
      rw [name]
      exact names generator.name (name_of_mem_dispatchers dispatcher)
    have whole : run.parameters.isWhole = true := isWhole_of_mem_planAll named member
    have value : optionValue? ("--" ++ run.parameters.name ++ "_opt=")
        (toolchain.forgeCommand run.directory run.parameters
          (protoArguments parameters request)).words = some run.parameters.encode :=
      optionValue?_forgeCommand free
    rw [Function.comp_apply, ← name]
    exact (congrArg (Option.map Parameters.decode) value).trans
      (congrArg some (Parameters.decode_encode_of_isWhole whole))
  · rw [planAll, List.map_map]
    refine List.map_congr_left fun target _ => ?_
    cases fanout <;> rfl

/-- The directives of `entrypoint` for two methods, under a root whose import path would have to be
quoted. -/
theorem dispatch_file_reads_back_users :
    let toolchain := Toolchain.ofRoot "/opt/forge"
    let parameters : Parameters := { base := "a \"b\"\n", nestedDirectory := "gen/entrypoint" }
    let runs := planAll "entrypoint" parameters Request.users .perMethod
    ∃ content, ((entrypointGenerator toolchain).generate parameters Request.users).value =
        .ok [⟨DispatchFile.fileName, content⟩] ∧
      readCommands content = runs.map (fun run =>
        (toolchain.forgeCommand run.directory run.parameters
          (protoArguments parameters Request.users)).words) ∧
      (readCommands content).map (fun command =>
          (optionValue? "--entrypoint_opt=" command).map Parameters.decode) =
        runs.map (fun run => some (.ok run.parameters)) ∧
      runs.map (fun run => (run.parameters.service, run.parameters.method)) =
        Request.users.targets.map Target.names := by
  intro toolchain parameters runs
  have dispatcher : (entrypointGenerator toolchain, Fanout.perMethod) ∈ dispatchers toolchain := by
    simp [dispatchers]
  have tools : toolchain.InWords := ⟨by decide, by decide, by decide, by decide⟩
  exact dispatch_file_reads_back dispatcher (by decide) tools (by decide) (by decide) (by decide)

end

end MethodForge
