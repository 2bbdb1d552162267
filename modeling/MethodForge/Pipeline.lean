/-
Module: MethodForge.Pipeline
Purpose: A full generation: five runs of the compiler, all made at the root of the repository, each
  with an output directory of its layout. The directory is created at its place under the root, its
  run follows, and the first thing that fails ends the generation. What a machine does when it is
  asked to create a directory or to run a command is left open, so that a generation can be run on a
  real machine, recorded, or reasoned about.
Main exports: Invocation, standardInvocations, PipelineError, Machine, Machine.generate
-/
import MethodForge.Host.NativePath
import MethodForge.Log.Event
import MethodForge.Toolchain

namespace MethodForge

open Host (NativePath)

/-- The plugin that a run uses. -/
inductive Plugin where
  /-- The one that writes messages and services in Go. -/
  | go
  /-- The one that runs the generators. -/
  | forge
deriving Repr, DecidableEq, Inhabited

/-- One run of a generation. -/
structure Invocation where
  plugin : Plugin
  /-- The settings of the run. Its output directory is the nested directory of the record. -/
  parameters : Parameters
  /-- Whether the output is directives that `go generate` has to follow. -/
  goGenerate : Bool
deriving Repr, DecidableEq, Inhabited

namespace Invocation

/-- The name of the run. -/
def name (invocation : Invocation) : String :=
  invocation.parameters.name

/-- The output directory, from the root. -/
def outDirectory (invocation : Invocation) : String :=
  invocation.parameters.nestedDirectory

/-- The place of the output directory under a root. -/
def outPlace (invocation : Invocation) (root : NativePath) : NativePath :=
  root.join (.ofText invocation.outDirectory)

/-- The command, to be run at the root. -/
def command (invocation : Invocation) (toolchain : Toolchain) (protos : List String) : Command :=
  match invocation.plugin with
  | .go => toolchain.goCommand invocation.outDirectory invocation.parameters protos
  | .forge => toolchain.forgeCommand invocation.outDirectory invocation.parameters protos

end Invocation

/-- The runs of a generation, in their order. Of the record only layout and deployment count. The
rules of the gateway go next to the manifests, with which they are deployed. -/
def standardInvocations (layout : Parameters) : List Invocation :=
  let run (plugin : Plugin) (name directory : String) (goGenerate : Bool) : Invocation :=
    ⟨plugin, layout.withTarget name "" "" directory, goGenerate⟩
  let generated (directory : String) : String := Path.join [layout.genDir, directory]
  [ run .go "proto" (generated "proto") false,
    run .forge "entrypoint" (generated "entrypoint") true,
    run .forge "config" (generated "config") true,
    run .forge "gateway" (generated "config") false,
    run .forge "methods" (Path.join [layout.methodsDir]) true ]

/-- Why a generation ends early. -/
inductive PipelineError where
  | createDirectory (directory reason : String)
  | spawn (program reason : String)
  | compilerFailed (name status : String)
  | noProtos
deriving Repr, DecidableEq

/-- The message of an error. -/
def PipelineError.message : PipelineError → String
  | .createDirectory directory reason =>
      s!"failed to create output directory {Text.quoted directory}: {reason}"
  | .spawn program reason => s!"failed to run {program}: {reason}"
  | .compilerFailed name status => s!"protoc failed for {Text.quoted name}: {status}"
  | .noProtos => "no proto files given"

/-- How a program ended. -/
inductive ExitStatus where
  | exited (code : Nat)
  | signalled (signal : Nat)
deriving Repr, DecidableEq, Inhabited

/-- The names of the signals that end a program. -/
def signalNames : List (Nat × String) :=
  [ (1, "SIGHUP"), (2, "SIGINT"), (3, "SIGQUIT"), (4, "SIGILL"), (5, "SIGTRAP"), (6, "SIGABRT"),
    (7, "SIGBUS"), (8, "SIGFPE"), (9, "SIGKILL"), (10, "SIGUSR1"), (11, "SIGSEGV"), (12, "SIGUSR2"),
    (13, "SIGPIPE"), (14, "SIGALRM"), (15, "SIGTERM"), (16, "SIGSTKFLT"), (17, "SIGCHLD"),
    (18, "SIGCONT"), (19, "SIGSTOP"), (20, "SIGTSTP"), (21, "SIGTTIN"), (22, "SIGTTOU"),
    (23, "SIGURG"), (24, "SIGXCPU"), (25, "SIGXFSZ"), (26, "SIGVTALRM"), (27, "SIGPROF"),
    (28, "SIGWINCH"), (29, "SIGIO"), (30, "SIGPWR"), (31, "SIGSYS") ]

/-- A status in words. -/
def ExitStatus.text : ExitStatus → String
  | .exited code => s!"exit status: {code}"
  | .signalled signal =>
      match signalNames.lookup signal with
      | some name => s!"signal: {signal} ({name})"
      | none => s!"signal: {signal}"

/-- What a generation needs of the machine that it runs on. -/
structure Machine (m : Type → Type) where
  /-- Creates the directory at a place and those above it, or says why it cannot. -/
  createDirectory : NativePath → m (Except String Unit)
  /-- Runs the command of the run of the given name from a directory. -/
  run : String → Command → NativePath → m (Except PipelineError Unit)
  /-- Notes an event. -/
  note : Log.Event → m Unit

namespace Machine

variable {m : Type → Type} [Monad m]

/-- Runs a command by starting it as a program. -/
def runProgram (note : Log.Event → m Unit)
    (start : Command → NativePath → m (Except String ExitStatus)) (name : String)
    (command : Command) (directory : NativePath) : m (Except PipelineError Unit) := do
  note (.note .debug .pipeline "running protoc" [⟨"command", command.text⟩])
  match ← start command directory with
  | .error reason => return .error (.spawn command.program reason)
  | .ok (.exited 0) => return .ok ()
  | .ok status => return .error (.compilerFailed name status.text)

/-- The directories in which `go generate` has to be run, after one more run. -/
def addPending (pending : List String) (invocation : Invocation) : List String :=
  if invocation.goGenerate && !pending.contains invocation.outDirectory then
    pending ++ [invocation.outDirectory]
  else pending

/-- Makes runs one after the other. -/
def runAll (machine : Machine m) (root : NativePath) (toolchain : Toolchain)
    (protos : List String) (pending : List String) :
    List Invocation → m (Except PipelineError (List String))
  | [] => return .ok pending
  | invocation :: rest => do
      machine.note (.note .info .pipeline s!"Generating {invocation.name}...")
      match ← machine.createDirectory (invocation.outPlace root) with
      | .error reason => return .error (.createDirectory invocation.outDirectory reason)
      | .ok () =>
          match ← machine.run invocation.name (invocation.command toolchain protos) root with
          | .error error => return .error error
          | .ok () => runAll machine root toolchain protos (addPending pending invocation) rest

/-- Makes a full generation, and gives the directories in which `go generate` has to be run, from the
root. -/
def generate (machine : Machine m) (root : NativePath) (layout : Parameters)
    (toolchain : Toolchain) (protos : List String) : m (Except PipelineError (List String)) :=
  if protos.isEmpty then return .error .noProtos
  else machine.runAll root toolchain protos [] (standardInvocations layout)

end Machine

end MethodForge
