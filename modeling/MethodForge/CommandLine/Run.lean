/-
Module: MethodForge.CommandLine.Run
Purpose: What the program does. Called by the compiler it is a plugin; called by a user it shows or
  makes a generation. It reads the configuration first, since that says what is logged; a plugin
  goes on without one, everything else ends with an error. All that touches the machine is given as
  data, so that the program can be run on a real machine or on one that is kept in memory.
Main exports: Surroundings, planText, generatorsText, helpText, Surroundings.run, programVersion
-/
import MethodForge.CommandLine.Arguments
import MethodForge.Log.Filter
import MethodForge.Pipeline
import MethodForge.PluginRun

namespace MethodForge.CommandLine

open Host (Environment FileState NativePath)
open Log (Event Filter Logged)
open Text (Bytes)

/-- The version of the program. -/
def programVersion : String := "0.1.0"

/-- What the program does to the machine and learns from it. -/
structure Surroundings (m : Type → Type) where
  environment : Environment
  /-- Finds out what there is at a path. -/
  look : NativePath → m FileState
  /-- Reads the standard input to its end. -/
  input : m Source
  /-- Writes to the standard output. -/
  print : Bytes → m Unit
  /-- Writes a line of the log. -/
  log : Event → m Unit
  /-- Creates the directory at a place and those above it, or says why it cannot. -/
  createDirectory : NativePath → m (Except String Unit)
  /-- Runs a command from a directory to its end, or says why it cannot be started. -/
  start : Command → NativePath → m (Except String ExitStatus)

/-- A line for a generator; the names stand in a column. -/
def generatorLine (generator : Generator) : String :=
  let width := 12
  let name := generator.name.toList
  String.ofList (name ++ List.replicate (width - name.length) ' ') ++ " " ++ generator.description

/-- The lines for all generators of a registry. -/
def generatorsText (registry : Registry) : String :=
  Text.unlines (registry.generators.entries.map fun entry => generatorLine entry.2)

/-- The lines that show the commands of a generation. -/
def planText (layout : Parameters) (toolchain : Toolchain) (protos : List String) : String :=
  Text.unlines ((standardInvocations layout).flatMap fun invocation =>
    [ s!"# {invocation.name} -> {invocation.outDirectory}",
      (invocation.command toolchain protos).text ])

/-- What a user is told after a generation. -/
def adviceTexts (layout : Parameters) (pending : List String) : List String :=
  let methods := Path.join [layout.methodsDir]
  "korpc code-generation complete." ::
    pending.map (fun directory =>
      s!"To expand {directory} run:\n  go generate ./{directory}/...") ++
    [ "To generate the skeleton for a single newly-added method run:\n" ++
        s!"  go generate ./{methods}/<service>/<method>" ]

/-- The root of a generation: the directory that the program is called in. -/
def generationRoot : NativePath :=
  .ofText "."

/-- How the program is called. -/
def usageText : String :=
  "Usage: korpc [OPTIONS] [COMMAND]"

/-- What the program tells about itself. -/
def helpText : String :=
  Text.unlines
    [ "protoc plugin and driver for per-method gRPC services",
      "",
      usageText,
      "",
      "Commands:",
      "  plugin      Serve one protoc plugin request from stdin",
      "  generators  List the registered generators",
      "  plan        Print the protoc commands a full generation runs",
      "  generate    Run protoc for every standard invocation",
      "  help        Print this message or the help of the given subcommand(s)",
      "",
      "Options:",
      "      --config <CONFIG>  Configuration file (defaults to the user config directory)",
      "  -v, --verbose...       Increase log verbosity (-v debug, -vv trace)",
      "  -h, --help             Print help",
      "  -V, --version          Print version" ]

/-- Why the program ends with an error. -/
inductive RunError where
  | config (error : ConfigError)
  | transport (error : TransportError)
  | pipeline (error : PipelineError)
deriving Repr, DecidableEq

/-- The message of an error. -/
def RunError.message : RunError → String
  | .config error => error.message
  | .transport error => error.message
  | .pipeline error => error.message

namespace Surroundings

variable {m : Type → Type} [Monad m]

/-- Writes an event if the filter shows it. -/
def note (surroundings : Surroundings m) (filter : Filter) (event : Event) : m Unit :=
  if filter.shows event then surroundings.log event else pure ()

/-- Writes the events of a computation and gives its value. -/
def settle {α : Type} (surroundings : Surroundings m) (filter : Filter) (logged : Logged α) :
    m α := do
  for event in logged.events do
    surroundings.note filter event
  return logged.value

/-- Writes a text to the standard output. -/
def printText (surroundings : Surroundings m) (text : String) : m Unit :=
  surroundings.print (Text.Utf8.encode text)

/-- The machine that a generation runs on. -/
def machine (surroundings : Surroundings m) (filter : Filter) : Machine m where
  createDirectory := surroundings.createDirectory
  run := Machine.runProgram (surroundings.note filter) surroundings.start
  note := surroundings.note filter

/-- Serves one request. -/
def servePlugin (surroundings : Surroundings m) (filter : Filter)
    (loaded : Except ConfigError Config) : m (Except RunError Unit) := do
  let config ← surroundings.settle filter (pluginConfig loaded)
  let source ← surroundings.input
  let outcome ←
    surroundings.settle filter (runPlugin config surroundings.environment source .all)
  surroundings.print outcome.written
  return outcome.result.mapError .transport

/-- Lists the generators. -/
def listGenerators (surroundings : Surroundings m) (filter : Filter) (config : Config) :
    m (Except RunError Unit) :=
  match config.resolveToolchain surroundings.environment with
  | .error error => return .error (.config error)
  | .ok toolchain => do
      let registry ← surroundings.settle filter (Registry.builtin toolchain)
      surroundings.printText (generatorsText registry)
      return .ok ()

/-- Shows the commands of a generation. -/
def plan (surroundings : Surroundings m) (arguments : LayoutArguments) (config : Config) :
    m (Except RunError Unit) :=
  match config.resolveToolchain surroundings.environment with
  | .error error => return .error (.config error)
  | .ok toolchain => do
      let layout := arguments.apply config.layoutParameters
      surroundings.printText (planText layout toolchain arguments.protos)
      return .ok ()

/-- Makes a generation. -/
def generate (surroundings : Surroundings m) (filter : Filter) (arguments : LayoutArguments)
    (config : Config) : m (Except RunError Unit) :=
  match config.resolveToolchain surroundings.environment with
  | .error error => return .error (.config error)
  | .ok toolchain => do
      let layout := arguments.apply config.layoutParameters
      match ← (surroundings.machine filter).generate generationRoot layout toolchain
          arguments.protos with
      | .error error => return .error (.pipeline error)
      | .ok pending => do
          for text in adviceTexts layout pending do
            surroundings.note filter (.note .info .commandLine text)
          return .ok ()

/-- Does what is to be done. Without a task the program is a plugin. -/
def perform (surroundings : Surroundings m) (filter : Filter) (task? : Option Task)
    (loaded : Except ConfigError Config) : m (Except RunError Unit) :=
  match task?, loaded with
  | none, _ => surroundings.servePlugin filter loaded
  | some .plugin, _ => surroundings.servePlugin filter loaded
  | _, .error error => return .error (.config error)
  | some .generators, .ok config => surroundings.listGenerators filter config
  | some (.plan arguments), .ok config => surroundings.plan arguments config
  | some (.generate arguments), .ok config => surroundings.generate filter arguments config

/-- The level that a configuration sets; the usual one if it cannot be read. -/
def levelOf : Except ConfigError Config → String
  | .ok config => config.logging.level
  | .error _ => "info"

/-- The exit code of a run that ends without a word, since no filter could be made for it. -/
def brokenCode : Nat := 101

/-- Does what is to be done under a filter, and gives the exit code. -/
def runFiltered (surroundings : Surroundings m) (filter : Filter) (level : String)
    (arguments : Arguments) (loaded : Except ConfigError Config) : m Nat := do
  surroundings.note filter (.note .trace .logging "logging initialized" [.quoted "level" level])
  match ← surroundings.perform filter arguments.task? loaded with
  | .ok () => return 0
  | .error error => do
      surroundings.note filter (.note .error .commandLine error.message)
      return 1

/-- Runs the program on arguments that have been read, and gives its exit code. -/
def runArguments (surroundings : Surroundings m) (arguments : Arguments) : m Nat := do
  let loaded ←
    Config.load surroundings.environment surroundings.look (arguments.config?.map .ofText)
  let level := Log.levelForVerbosity (levelOf loaded) arguments.verbose
  match Log.chooseFilter surroundings.environment.logFilter? level with
  | .ok filter => surroundings.runFiltered filter level arguments loaded
  | .error _ => return brokenCode

/-- Runs the program on the texts of its arguments, and gives its exit code. -/
def run (surroundings : Surroundings m) (arguments : List String) : m Nat :=
  match Arguments.read arguments with
  | .error .usageError => return 2
  | .error .help => do
      surroundings.printText helpText
      return 0
  | .error .version => do
      surroundings.printText ("korpc " ++ programVersion ++ "\n")
      return 0
  | .ok arguments => surroundings.runArguments arguments

end Surroundings

end MethodForge.CommandLine
