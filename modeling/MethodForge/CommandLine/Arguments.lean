/-
Module: MethodForge.CommandLine.Arguments
Purpose: The arguments of the program. They are read from left to right, on two levels: those of the
  program and, behind the name of a task, those of the task. An option takes its value from behind
  an equals sign or from the next argument, which must not look like an option, and is given at most
  once on a level. The options of the program may stand on both levels; the task's then count. What
  ends the reading first, an error or a wish for help or the version, is what counts.
Main exports: Arguments, Task, LayoutArguments, Arguments.read
-/
import MethodForge.Parameters.Basic

namespace MethodForge.CommandLine

/-- What a plan is made for; a setting that is not given comes from the configuration. -/
structure LayoutArguments where
  base? : Option String := none
  genDir? : Option String := none
  methodsDir? : Option String := none
  domain? : Option String := none
  kubeNamespace? : Option String := none
  protos : List String := []
deriving Repr, DecidableEq, Inhabited

/-- A record with the settings that are given put in. -/
def LayoutArguments.apply (arguments : LayoutArguments) (layout : Parameters) : Parameters :=
  { layout with
    base := arguments.base?.getD layout.base
    genDir := arguments.genDir?.getD layout.genDir
    methodsDir := arguments.methodsDir?.getD layout.methodsDir
    domain := arguments.domain?.getD layout.domain
    kubeNamespace := arguments.kubeNamespace?.getD layout.kubeNamespace }

/-- What the program is to do. -/
inductive Task where
  /-- Serve one request as a plugin. -/
  | plugin
  /-- List the generators. -/
  | generators
  /-- Show the commands of a generation. -/
  | plan (layout : LayoutArguments)
  /-- Make a generation. -/
  | generate (layout : LayoutArguments)
deriving Repr, DecidableEq, Inhabited

/-- The arguments of the program. -/
structure Arguments where
  task? : Option Task := none
  config? : Option String := none
  /-- How often more verbosity was asked for. -/
  verbose : Nat := 0
deriving Repr, DecidableEq, Inhabited

/-- What ends the reading early. -/
inductive Stop where
  | usageError
  | help
  | version
deriving Repr, DecidableEq, Inhabited

/-- What can be given on a level. -/
structure Level where
  /-- The options that take a value. -/
  options : List String
  /-- Whether the version can be asked for. -/
  hasVersion : Bool := false
  /-- The names of tasks, one of which ends the level. -/
  tasks : List String := []
  /-- Whether other arguments are taken. -/
  takesOthers : Bool := false
deriving Repr, DecidableEq, Inhabited

/-- What has been given on a level. -/
structure Given where
  values : List (String × String) := []
  verbose : Nat := 0
  others : List String := []
  /-- The task that ended the level, and the arguments behind it. -/
  task? : Option (String × List String) := none
deriving Repr, DecidableEq, Inhabited

/-- The value of an option. -/
def Given.value? (given : Given) (option : String) : Option String :=
  given.values.lookup option

/-- Whether an argument looks like an option. -/
def looksLikeOption (argument : String) : Bool :=
  match argument.toList with
  | '-' :: _ :: _ => true
  | _ => false

/-- Takes the value of an option. The option `config` needs one that is not empty. -/
def Given.take (given : Given) (option value : String) : Except Stop Given :=
  if (given.value? option).isSome || (option == "config" && value.isEmpty) then .error .usageError
  else .ok { given with values := (option, value) :: given.values }

/-- Takes a run of short options. -/
def takeShort (level : Level) (given : Given) : List Char → Except Stop Given
  | [] => .ok given
  | 'v' :: rest => takeShort level { given with verbose := given.verbose + 1 } rest
  | 'h' :: _ => .error .help
  | 'V' :: _ => if level.hasVersion then .error .version else .error .usageError
  | _ => .error .usageError

/-- Takes an option that has no value. -/
def takeFlag (level : Level) (given : Given) (name : String) : Except Stop Given :=
  if name == "verbose" then .ok { given with verbose := given.verbose + 1 }
  else if name == "help" then .error .help
  else if name == "version" && level.hasVersion then .error .version
  else .error .usageError

/-- An option without its dashes, split at its first equals sign. -/
def splitOption (text : List Char) : String × Option String :=
  match text.dropWhile (· != '=') with
  | [] => (String.ofList text, none)
  | _ :: value => (String.ofList (text.takeWhile (· != '=')), some (String.ofList value))

/-- Takes arguments that are no options. -/
def takeOthers (level : Level) (given : Given) (others : List String) : Except Stop Given :=
  if level.takesOthers || others.isEmpty then .ok { given with others := given.others ++ others }
  else .error .usageError

/-- Reads the arguments of a level. -/
def readLevel (level : Level) (given : Given) : List String → Except Stop Given
  | [] => .ok given
  | argument :: rest =>
      match argument.toList with
      | ['-', '-'] => takeOthers level given rest
      | '-' :: '-' :: text =>
          match splitOption text with
          | (name, some value) =>
              if level.options.contains name then do
                let given ← given.take name value
                readLevel level given rest
              else .error .usageError
          | (name, none) =>
              if level.options.contains name then
                match rest with
                | [] => .error .usageError
                | value :: rest =>
                    if looksLikeOption value then .error .usageError
                    else do
                      let given ← given.take name value
                      readLevel level given rest
              else do
                let given ← takeFlag level given name
                readLevel level given rest
      | '-' :: first :: short => do
          let given ← takeShort level given (first :: short)
          readLevel level given rest
      | _ =>
          if level.tasks.contains argument then .ok { given with task? := some (argument, rest) }
          else do
            let given ← takeOthers level given [argument]
            readLevel level given rest

/-- The names of the tasks. -/
def taskNames : List String :=
  ["plugin", "generators", "plan", "generate"]

/-- The arguments of the program itself. -/
def programLevel : Level where
  options := ["config"]
  hasVersion := true
  tasks := "help" :: taskNames

/-- The arguments of a task without a plan. -/
def plainLevel : Level where
  options := ["config"]

/-- The arguments of a task with a plan. -/
def layoutLevel : Level where
  options := ["config", "base", "gen", "methods", "domain", "namespace"]
  takesOthers := true

/-- What a plan is made for, by what has been given. There has to be a file. -/
def Given.layout (given : Given) : Except Stop LayoutArguments :=
  if given.others.isEmpty then .error .usageError
  else
    .ok
      { base? := given.value? "base"
        genDir? := given.value? "gen"
        methodsDir? := given.value? "methods"
        domain? := given.value? "domain"
        kubeNamespace? := given.value? "namespace"
        protos := given.others }

/-- The arguments as given on both levels: on the level of the task, where given there. -/
def combine (program task : Given) (chosen : Task) : Arguments where
  task? := some chosen
  config? := task.value? "config" <|> program.value? "config"
  verbose := if task.verbose = 0 then program.verbose else task.verbose

/-- Reads what comes behind a wish for help: the name of at most one task. -/
def readHelp : List String → Stop
  | [] => .help
  | [name] => if (programLevel.tasks).contains name then .help else .usageError
  | _ => .usageError

/-- Reads the arguments of a task. -/
def readTask (program : Given) (name : String) (rest : List String) : Except Stop Arguments :=
  match name with
  | "help" => .error (readHelp rest)
  | "plugin" => (readLevel plainLevel {} rest).map fun given => combine program given .plugin
  | "generators" =>
      (readLevel plainLevel {} rest).map fun given => combine program given .generators
  | "plan" => do
      let given ← readLevel layoutLevel {} rest
      return combine program given (.plan (← given.layout))
  | _ => do
      let given ← readLevel layoutLevel {} rest
      return combine program given (.generate (← given.layout))

/-- Reads the arguments of the program. -/
def Arguments.read (arguments : List String) : Except Stop Arguments := do
  let given ← readLevel programLevel {} arguments
  match given.task? with
  | some (name, rest) => readTask given name rest
  | none => return { config? := given.value? "config", verbose := given.verbose }

end MethodForge.CommandLine
