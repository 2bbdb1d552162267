/-
Module: MethodForge.DispatchFile
Purpose: Go files that hold nothing but `go:generate` directives. A run on every method writes no code
  itself: it plans a run on each method and leaves a directive for it, and `go generate` then runs
  them one by one.
Main exports: PlannedRun, planAll, protoArguments, DispatchFile, DispatchFile.lines
-/
import MethodForge.Naming
import MethodForge.Schema.Target
import MethodForge.Text.Lines
import MethodForge.Toolchain

namespace MethodForge

open Schema (Request Target)

/-- A run that is to follow. -/
structure PlannedRun where
  /-- The output directory, from the directory of the file that holds the directive. -/
  directory : String
  /-- The settings of the run. -/
  parameters : Parameters
deriving Repr, DecidableEq, Inhabited

/-- Where planned runs write. -/
inductive Fanout where
  /-- Each into a directory of its method. -/
  | perMethod
  /-- All into the directory of the file that holds the directives. -/
  | shared
deriving Repr, DecidableEq, Inhabited

/-- The run of the generator `name` on one target. -/
def planTarget (name : String) (parameters : Parameters) (fanout : Fanout) (target : Target) :
    PlannedRun :=
  let service := target.serviceName
  let method := target.methodName
  match fanout with
  | .perMethod =>
      let directory := Naming.methodDirectory service method
      let nested := Path.join [parameters.nestedDirectory, directory]
      ⟨directory, parameters.withTarget name service method nested⟩
  | .shared => ⟨".", parameters.withTarget name service method parameters.nestedDirectory⟩

/-- A run of the generator `name` on each target of a request. -/
def planAll (name : String) (parameters : Parameters) (request : Request) (fanout : Fanout) :
    List PlannedRun :=
  request.targets.map (planTarget name parameters fanout)

/-- The files to generate for, as seen from the output directory of a run. -/
def protoArguments (parameters : Parameters) (request : Request) : List String :=
  request.fileNames.map fun name => Path.join [parameters.nestingEscape, name]

/-- What a file of directives is written from. -/
structure DispatchFile where
  /-- The Go package of the file. -/
  package : String
  /-- The runs, in their order. -/
  runs : List PlannedRun
  toolchain : Toolchain
  /-- The files to generate for. -/
  protos : List String
  /-- Whether the output directory of a run is created first. -/
  createsDirectories : Bool
deriving Repr, DecidableEq

namespace DispatchFile

/-- The name that the generators give such a file. -/
def fileName : String := "korpc.go"

/-- A directive. -/
def directive (command : String) : String :=
  "//go:generate " ++ command

/-- The lines for one run. -/
def runLines (file : DispatchFile) (run : PlannedRun) : List String :=
  "" ::
    ((if file.createsDirectories then [directive ("mkdir -p " ++ run.directory)] else []) ++
      [directive (file.toolchain.forgeCommand run.directory run.parameters file.protos).text])

/-- The lines of the file. -/
def lines (file : DispatchFile) : List String :=
  ("package " ++ file.package) :: file.runs.flatMap file.runLines

/-- The text of the file. -/
def text (file : DispatchFile) : String :=
  Text.unlines file.lines

end DispatchFile

end MethodForge
