/-
Module: MethodForge.Proofs.DispatchFile.Written
Purpose: The files of directives that the generators write: `methods`, `entrypoint` and `config` one
  with a directive for every method, and `methods` one that scaffolds a single method. Every
  directive of such a file calls the compiler for one of its runs, and the record that it carries is
  whole. What is written is the lines of these directives and nothing else.
Main exports: Command.words, DispatchFile.commandOf, DispatchFile.eq_of_mem_lines, Directive,
  directiveLines, DispatchFile.isWrittenFrom, exists_directive_of_mem, dispatchers,
  WritesDirectives, WritesDirectives.generate, WritesDirectives.decode_of_mem_runs
-/
import MethodForge.Proofs.Generator.Builtin
import MethodForge.Proofs.Parameters.RoundTrip
import MethodForge.Proofs.Text.Written

namespace MethodForge

open Schema (Request Target)
open Text (IsWrittenFrom dropEndBlanks linesOf startingWith)

/-- The program of a command and its arguments behind it. -/
def Command.words (command : Command) : List String :=
  command.program :: command.arguments

/-- The command in the directive for a run. -/
def DispatchFile.commandOf (file : DispatchFile) (run : PlannedRun) : Command :=
  file.toolchain.forgeCommand run.directory run.parameters file.protos

/-- A line of a file is its first line, or belongs to a run: it is empty, or creates the directory of
the run, or holds its command. -/
theorem DispatchFile.eq_of_mem_lines {file : DispatchFile} {line : String}
    (member : line ∈ file.lines) :
    line = "package " ++ file.package ∨
      ∃ run ∈ file.runs, line = "" ∨ line = directive ("mkdir -p " ++ run.directory) ∨
        line = directive (file.commandOf run).text := by
  rcases List.mem_cons.1 member with first | inRuns
  · exact .inl first
  · obtain ⟨run, inFile, inLines⟩ := List.mem_flatMap.1 inRuns
    refine .inr ⟨run, inFile, ?_⟩
    rcases List.mem_cons.1 inLines with empty | inDirectives
    · exact .inl empty
    · rcases List.mem_append.1 inDirectives with creates | compiles
      · right
        left
        split at creates
        · exact List.mem_singleton.1 creates
        · cases creates
      · right
        right
        exact List.mem_singleton.1 compiles

/-! ### What is written -/

/-- What a file holds for a run: the directory that is created for it, if one is, and its command. -/
structure Directive where
  creates? : Option String
  command : Command

/-- The line that creates a directory. -/
def createLine (directory : String) : String :=
  "//go:generate mkdir -p " ++ directory

theorem createLine_eq (directory : String) :
    createLine directory = "//go:generate mkdir -p " ++ directory := rfl

/-- The line that runs a command. -/
def runLine (command : Command) : String :=
  "//go:generate " ++ " ".intercalate command.words

/-- The lines of a directive. -/
def Directive.lines (directive : Directive) : List String :=
  "" :: (directive.creates?.map createLine).toList ++ [runLine directive.command]

/-- The lines of a file of directives. -/
def directiveLines (package : String) (directives : List Directive) : List String :=
  ("package " ++ package) :: directives.flatMap Directive.lines

namespace DispatchFile

/-- The directives of a file, one for each run. -/
def directives (file : DispatchFile) : List Directive :=
  file.runs.map fun run =>
    { creates? := if file.createsDirectories then some run.directory else none
      command := file.commandOf run }

theorem lines_eq (file : DispatchFile) :
    file.lines = directiveLines file.package file.directives := by
  have creates (directory : String) :
      directive ("mkdir -p " ++ directory) = createLine directory := by
    simp [createLine_eq, directive, ← String.toList_inj]
  have compiles (run : PlannedRun) :
      directive (file.toolchain.forgeCommand run.directory run.parameters file.protos).text =
        runLine (file.commandOf run) := rfl
  have each (run : PlannedRun) : file.runLines run =
      (Directive.mk (if file.createsDirectories then some run.directory else none)
        (file.commandOf run)).lines := by
    rw [runLines, Directive.lines, creates, compiles]
    cases file.createsDirectories with
    | true => simp
    | false => simp
  rw [lines, directiveLines, directives, List.flatMap_map]
  exact congrArg _ (List.flatMap_congr fun run _ => each run)

/-- The text of a file is written from its directives. -/
theorem isWrittenFrom (file : DispatchFile) :
    IsWrittenFrom (Text.tidy file.text) (directiveLines file.package file.directives) := by
  rw [← lines_eq]
  exact Text.isWrittenFrom_tidy file.lines

end DispatchFile

/-- Where no line is broken, `go generate` finds no directive in a file but those that it is written
from. -/
theorem exists_directive_of_mem {content package : String} {directives : List Directive}
    (written : IsWrittenFrom content (directiveLines package directives))
    (closed : ∀ line ∈ directiveLines package directives, '\n' ∉ line.toList) {line : List Char}
    (member : line ∈ startingWith "//go:generate " (linesOf content)) :
    ∃ directive ∈ directives,
      (∃ directory ∈ directive.creates?, line = dropEndBlanks (createLine directory).toList) ∨
        line = dropEndBlanks (runLine directive.command).toList := by
  obtain ⟨inText, starts⟩ := List.mem_filter.1 member
  obtain ⟨source, inLines, rfl⟩ := written.exists_of_mem closed inText
  have leads := Text.prefix_of_prefix_dropEndBlanks (of_decide_eq_true starts)
  rcases List.mem_cons.1 inLines with rfl | inDirectives
  · simp at leads
  obtain ⟨directive, inFile, ofDirective⟩ := List.mem_flatMap.1 inDirectives
  refine ⟨directive, inFile, ?_⟩
  simp only [Directive.lines, List.cons_append, List.mem_cons, List.mem_append,
    List.not_mem_nil, or_false, Option.mem_toList, Option.map_eq_some_iff] at ofDirective
  rcases ofDirective with rfl | ⟨directory, creates, rfl⟩ | rfl
  · simp at leads
  · exact Or.inl ⟨directory, creates, rfl⟩
  · exact Or.inr rfl

/-! ### Which files are written -/

/-- The generators that leave directives for every method, and where the runs write. -/
def dispatchers (toolchain : Toolchain) : List (Generator × Fanout) :=
  [ (methodsGenerator toolchain, .perMethod),
    (entrypointGenerator toolchain, .perMethod),
    (configGenerator toolchain, .shared) ]

/-- The file with a directive for every method. Directories of methods are created for it. -/
def everyMethodFile (toolchain : Toolchain) (generator : Generator) (fanout : Fanout)
    (parameters : Parameters) (request : Request) : DispatchFile :=
  dispatchToAll generator.name generator.name fanout (decide (fanout = .perMethod)) toolchain
    parameters request

/-- The files of directives that a run writes, by the generator that is run. -/
inductive WritesDirectives (toolchain : Toolchain) (parameters : Parameters) (request : Request) :
    Generator → DispatchFile → Prop where
  | every {generator : Generator} {fanout : Fanout}
      (dispatcher : (generator, fanout) ∈ dispatchers toolchain)
      (every : parameters.mode = .every) :
      WritesDirectives toolchain parameters request generator
        (everyMethodFile toolchain generator fanout parameters request)
  | single {target : Target} (found : parameters.target request = .ok target) :
      WritesDirectives toolchain parameters request (methodsGenerator toolchain)
        (scaffoldDispatch toolchain parameters request target)

section

variable {toolchain : Toolchain} {parameters : Parameters} {request : Request}
  {generator : Generator} {fanout : Fanout} {file : DispatchFile}

theorem generate_dispatcher (dispatcher : (generator, fanout) ∈ dispatchers toolchain)
    (every : parameters.mode = .every) :
    (generator.generate parameters request).value =
      .ok (dispatchOutput (everyMethodFile toolchain generator fanout parameters request)) := by
  simp only [dispatchers, List.mem_cons, List.not_mem_nil, or_false, Prod.mk.injEq] at dispatcher
  rcases dispatcher with ⟨rfl, rfl⟩ | ⟨rfl, rfl⟩ | ⟨rfl, rfl⟩
  · exact methodsGenerator_every every
  · exact entrypointGenerator_every every
  · exact configGenerator_every every

namespace WritesDirectives

variable (writes : WritesDirectives toolchain parameters request generator file)
include writes

/-- The generator gives the file and nothing else. -/
theorem generate :
    (generator.generate parameters request).value = .ok (dispatchOutput file) := by
  cases writes with
  | every dispatcher every => exact generate_dispatcher dispatcher every
  | single found => exact methodsGenerator_single found

theorem protos_eq : file.protos = protoArguments parameters request := by
  cases writes <;> rfl

/-- A directive carries the record of its run. -/
theorem decode_of_mem_runs (named : ∀ target ∈ request.targets, target.Named) {run : PlannedRun}
    (member : run ∈ file.runs) : Parameters.decode run.parameters.encode = .ok run.parameters := by
  refine Parameters.decode_encode_of_isWhole ?_
  cases writes with
  | every dispatcher every => exact isWhole_of_mem_planAll named member
  | single found =>
      obtain ⟨-, inRequest, -⟩ := Parameters.target_ok found
      obtain ⟨serviceNamed, methodNamed⟩ := named _ inRequest
      rw [List.mem_singleton.1 member]
      exact parameters.isWhole_withTarget serviceNamed methodNamed _ _

end WritesDirectives

end

end MethodForge
