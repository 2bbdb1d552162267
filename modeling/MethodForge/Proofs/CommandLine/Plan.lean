/-
Module: MethodForge.Proofs.CommandLine.Plan
Purpose: A plan tells what a generation does. Both read the same configuration and put the same
  arguments over it. What the plan prints is one heading and one command for each run, from which the
  commands can be read back, and the generation starts these commands in this order, each after its
  output directory was created. A setting that is given as an argument counts before one in the file,
  and that before the default, each by itself; the record in a command carries the settings that come
  of it.
Main exports: ShownRun, listing, commandLines, HasSettings, CarriesSettings, TellsWhatIsDone,
  plan_tells_what_generate_does
-/
import MethodForge.Proofs.CommandLine.Recorded
import MethodForge.Proofs.Config.Settings
import MethodForge.Proofs.DispatchFile.ReadBack

namespace MethodForge.CommandLine

open Config (HoldsSettings SetBy text?)
open Host (NativePath)
open Log (Filter)
open Toml (Entries)

/-! ### What a plan shows -/

/-- A run as a plan shows it. -/
structure ShownRun where
  name : String
  directory : String
  command : Command
deriving Repr, DecidableEq

namespace ShownRun

/-- The line that tells the name of the run and its output directory. -/
def heading (run : ShownRun) : String :=
  "# " ++ run.name ++ " -> " ++ run.directory

/-- The line with the command: its words, and a space between one and the next. -/
def line (run : ShownRun) : String :=
  " ".intercalate run.command.words

/-- Whether both lines of a run are lines. -/
def OnLines (run : ShownRun) : Prop :=
  '\n' ∉ run.heading.toList ∧ '\n' ∉ run.line.toList

/-- What the run asks for: its output directory below the current directory, and then its command in
the current directory. -/
def effects (run : ShownRun) : List Effect :=
  [ .createDirectory ((NativePath.ofText ".").join (.ofText run.directory)),
    .start run.command (.ofText ".") ]

/-- What a plan shows of a run of a generation. -/
def ofInvocation (toolchain : Toolchain) (protos : List String) (invocation : Invocation) :
    ShownRun :=
  ⟨invocation.name, invocation.outDirectory, invocation.command toolchain protos⟩

end ShownRun

/-- The text that shows runs. -/
def listing (runs : List ShownRun) : String :=
  Text.unlines (runs.flatMap fun run => [run.heading, run.line])

/-- Every second one, from the second one on. -/
def everySecond {α : Type} : List α → List α
  | _ :: second :: rest => second :: everySecond rest
  | _ => []

/-- The command lines in the text of a plan. -/
def commandLines (text : String) : List String :=
  everySecond ((text.toList.splitOn '\n').map String.ofList)

/-- The words on a line. -/
def wordsOf (line : String) : List String :=
  (line.toList.splitOn ' ').map String.ofList

/-- The command lines are read back from the text that shows them. -/
theorem commandLines_listing {runs : List ShownRun} (closed : ∀ run ∈ runs, run.OnLines) :
    commandLines (listing runs) = runs.map (·.line) := by
  induction runs with
  | nil => rfl
  | cons run rest ih =>
      have ⟨heading, line⟩ := closed run List.mem_cons_self
      have cut : (listing (run :: rest)).toList.splitOn '\n' =
          run.heading.toList :: run.line.toList :: (listing rest).toList.splitOn '\n' := by
        rw [listing, List.flatMap_cons, List.cons_append, List.singleton_append,
          Text.toList_unlines_cons, List.splitOn_append_cons_self_of_not_mem heading,
          Text.toList_unlines_cons, List.splitOn_append_cons_self_of_not_mem line]
        rfl
      rw [commandLines, cut, List.map_cons, List.map_cons, everySecond, String.ofList_toList]
      exact congrArg _ (ih fun other member => closed other (List.mem_cons_of_mem _ member))

/-- A command is read back from its line. -/
theorem wordsOf_line {run : ShownRun} (apart : ∀ word ∈ run.command.words, ' ' ∉ word.toList) :
    wordsOf run.line = run.command.words :=
  splitOn_text apart

/-- A plan shows the runs of a generation. -/
theorem planText_eq (layout : Parameters) (toolchain : Toolchain) (protos : List String) :
    planText layout toolchain protos =
      listing ((standardInvocations layout).map (.ofInvocation toolchain protos)) := by
  rw [planText, listing, List.flatMap_map]
  exact congrArg Text.unlines (List.flatMap_congr fun _ _ => rfl)

/-- A generation asks for what its runs ask for. -/
theorem plannedEffects_eq (layout : Parameters) (toolchain : Toolchain) (protos : List String) :
    plannedEffects generationRoot toolchain protos (standardInvocations layout) =
      ((standardInvocations layout).map (.ofInvocation toolchain protos)).flatMap
        ShownRun.effects :=
  rfl

/-! ### Settings -/

/-- What is said of a record whose settings are given as arguments or come from a document: one that is
given counts before one in the document, and that before the default. -/
structure HasSettings (arguments : LayoutArguments) (document : Entries) (record : Parameters) :
    Prop where
  base : record.base = (arguments.base?.or (text? document "layout" "base")).getD ""
  genDir : record.genDir = (arguments.genDir?.or (text? document "layout" "gen_dir")).getD "./gen"
  methodsDir : record.methodsDir =
    (arguments.methodsDir?.or (text? document "layout" "methods_dir")).getD "./pkg/methods"
  domain : record.domain = (arguments.domain?.or (text? document "deploy" "domain")).getD ""
  kubeNamespace : record.kubeNamespace =
    (arguments.kubeNamespace?.or (text? document "deploy" "namespace")).getD "default"

theorem hasSettings_apply (arguments : LayoutArguments) {document : Entries} {config : Config}
    (set : SetBy document config) :
    HasSettings arguments document (arguments.apply config.layoutParameters) := by
  have first (argument? set? : Option String) (default : String) :
      argument?.getD (set?.getD default) = (argument?.or set?).getD default := by
    cases argument? <;> rfl
  constructor
  · exact (congrArg _ set.base).trans (first _ _ _)
  · exact (congrArg _ set.genDir).trans (first _ _ _)
  · exact (congrArg _ set.methodsDir).trans (first _ _ _)
  · exact (congrArg _ set.domain).trans (first _ _ _)
  · exact (congrArg _ set.kubeNamespace).trans (first _ _ _)

/-- The name, the target and the directory of a run are no settings. -/
theorem HasSettings.withTarget {arguments : LayoutArguments} {document : Entries}
    {layout : Parameters} (set : HasSettings arguments document layout)
    (name service method directory : String) :
    HasSettings arguments document (layout.withTarget name service method directory) :=
  ⟨set.base, set.genDir, set.methodsDir, set.domain, set.kubeNamespace⟩

/-- What is said of the run of the plugin that writes messages. -/
def WritesMessages (arguments : LayoutArguments) (document : Entries) (toolchain : Toolchain)
    (run : ShownRun) : Prop :=
  ∃ record : Parameters,
    record.name = "proto" ∧ HasSettings arguments document record ∧
      run = ⟨"proto", record.nestedDirectory,
        toolchain.goCommand record.nestedDirectory record arguments.protos⟩

/-- What is said of the run of the generator `name` on every method. -/
def CarriesSettings (arguments : LayoutArguments) (document : Entries) (name : String)
    (run : ShownRun) : Prop :=
  ∃ encoded record,
    optionValue? ("--" ++ name ++ "_opt=") run.command.words = some encoded ∧
      Parameters.decode encoded = .ok record ∧ record.mode = .every ∧ record.name = name ∧
      optionValue? ("--" ++ name ++ "_out=") run.command.words = some record.nestedDirectory ∧
      run.name = name ∧ run.directory = record.nestedDirectory ∧
      HasSettings arguments document record

theorem carriesSettings_forgeCommand {arguments : LayoutArguments} {document : Entries}
    {layout : Parameters} (set : HasSettings arguments document layout) {name : String}
    (free : '=' ∉ name.toList) (toolchain : Toolchain) (directory : String) (protos : List String) :
    CarriesSettings arguments document name
      ⟨name, directory,
        toolchain.forgeCommand directory (layout.withTarget name "" "" directory) protos⟩ := by
  let record := layout.withTarget name "" "" directory
  let command := toolchain.forgeCommand directory record protos
  have recordFree : '=' ∉ record.name.toList := free
  have option : optionValue? ("--" ++ record.name ++ "_opt=") command.words = some record.encode :=
    optionValue?_forgeCommand recordFree
  have out : optionValue? ("--" ++ record.name ++ "_out=") command.words = some directory :=
    optionValue?_out recordFree
  have decoded : Parameters.decode record.encode = .ok record :=
    Parameters.decode_encode_of_isWhole rfl
  exact ⟨record.encode, record, option, decoded, rfl, rfl, out, rfl, rfl,
    set.withTarget name "" "" directory⟩

/-- The runs of a generation: one of the plugin that writes messages, and then one for each of the
generators that are run on every method. -/
theorem shownRuns_cons {arguments : LayoutArguments} {document : Entries} {layout : Parameters}
    (set : HasSettings arguments document layout) (toolchain : Toolchain) :
    ∃ first rest,
      (standardInvocations layout).map (ShownRun.ofInvocation toolchain arguments.protos) =
          first :: rest ∧
        WritesMessages arguments document toolchain first ∧
        List.Forall₂ (CarriesSettings arguments document)
          ["entrypoint", "config", "gateway", "methods"] rest := by
  refine ⟨_, _, rfl, ?_, ?_⟩
  · exact ⟨layout.withTarget "proto" "" "" _, rfl, set.withTarget _ _ _ _, rfl⟩
  · have carries (name directory : String) (free : '=' ∉ name.toList) :=
      carriesSettings_forgeCommand set free toolchain directory arguments.protos
    refine .cons ?_ (.cons ?_ (.cons ?_ (.cons ?_ .nil)))
    · exact carries "entrypoint" _ (by decide)
    · exact carries "config" _ (by decide)
    · exact carries "gateway" _ (by decide)
    · exact carries "methods" _ (by decide)

/-! ### Runs -/

namespace Surroundings

variable {σ : Type} (surroundings : Surroundings (StateM σ)) (filter : Filter)
  (arguments : LayoutArguments) {config : Config} {toolchain : Toolchain}

/-- A plan prints its text and does nothing else. -/
theorem observe_plan
    (found : config.resolveToolchain surroundings.environment = .ok toolchain) (state : σ) :
    let layout := arguments.apply config.layoutParameters
    (surroundings.recorded.plan arguments config).observe state =
      (.ok (), [.print (Text.Utf8.encode (planText layout toolchain arguments.protos))]) := by
  intro layout
  have resolved : config.resolveToolchain surroundings.recorded.environment = .ok toolchain := found
  rw [plan, resolved]
  rfl

/-- A generation follows its plan. -/
theorem observe_generate
    (found : config.resolveToolchain surroundings.environment = .ok toolchain)
    (given : arguments.protos ≠ []) (state : σ) :
    let layout := arguments.apply config.layoutParameters
    let planned :=
      plannedEffects generationRoot toolchain arguments.protos (standardInvocations layout)
    let generated := (surroundings.recorded.generate filter arguments config).observe state
    generated.2 <+: planned ∧ (generated.1 = .ok () → generated.2 = planned) ∧
      (surroundings.Succeeds → generated.1 = .ok ()) := by
  intro layout planned generated
  have resolved : config.resolveToolchain surroundings.recorded.environment = .ok toolchain := found
  obtain ⟨result, after, effects, generating, start, whole, ends⟩ :=
    surroundings.generation_recorded filter generationRoot layout toolchain given state
  cases result with
  | error error =>
      have running : surroundings.recorded.generate filter arguments config (state, []) =
          (.error (.pipeline error), after, effects) := by
        rw [generate, resolved]
        dsimp only
        rw [bind_apply, generating]
        rfl
      have observed : generated = (.error (.pipeline error), effects) := by
        simp only [generated, Recording.observe, running]
      rw [observed]
      refine ⟨start, ?_, fun succeeds => ?_⟩
      · intro ended
        cases ended
      · obtain ⟨pending, ended⟩ := ends succeeds
        cases ended
  | ok pending =>
      obtain ⟨last, noting⟩ := surroundings.forIn_note_recorded filter after effects
        (fun text => .note .info .commandLine text) (adviceTexts layout pending)
      have running : surroundings.recorded.generate filter arguments config (state, []) =
          (.ok (), last, effects) := by
        rw [generate, resolved]
        dsimp only
        rw [bind_apply, generating]
        dsimp only
        rw [bind_apply, noting]
        rfl
      have observed : generated = (.ok (), effects) := by
        simp only [generated, Recording.observe, running]
      rw [observed]
      exact ⟨start, fun _ => whole pending rfl, fun _ => rfl⟩

end Surroundings

/-- What is said of a plan and of a generation, each with its result and its effects. `fine` is that
nothing fails in the generation. -/
structure TellsWhatIsDone (runs : List ShownRun) (fine : Prop)
    (planned generated : Except RunError Unit × List Effect) : Prop where
  /-- The plan prints the runs, two lines for each, and does nothing else. -/
  shown : planned = (.ok (), [.print (Text.Utf8.encode (listing runs))])
  /-- What is printed says what the commands are, unless a line feed in one of them breaks a line. -/
  commands : (∀ run ∈ runs, run.OnLines) → commandLines (listing runs) = runs.map (·.line)
  /-- A command line says what its words are, unless one of them holds a space. -/
  words : ∀ run ∈ runs, (∀ word ∈ run.command.words, ' ' ∉ word.toList) →
    wordsOf run.line = run.command.words
  /-- The generation asks for a first part of what the runs ask for. -/
  started : generated.2 <+: runs.flatMap (·.effects)
  /-- It asks for all of it when it succeeds, and so it starts the commands that are shown. -/
  whole : generated.1 = .ok () → generated.2 = runs.flatMap (·.effects) ∧
    generated.2.filterMap Effect.command? = runs.map (·.command)
  /-- It succeeds when nothing fails. -/
  ends : fine → generated.1 = .ok ()

/-- The commands that are started among what runs ask for are those of the runs. -/
theorem filterMap_command?_effects (runs : List ShownRun) :
    (runs.flatMap (·.effects)).filterMap Effect.command? = runs.map (·.command) := by
  induction runs with
  | nil => rfl
  | cons run rest ih =>
      rw [List.flatMap_cons, List.filterMap_append, ih]
      rfl

theorem tellsWhatIsDone {σ : Type} (surroundings : Surroundings (StateM σ)) (filter : Filter)
    {arguments : LayoutArguments} (given : arguments.protos ≠ []) {config : Config}
    {toolchain : Toolchain}
    (found : config.resolveToolchain surroundings.environment = .ok toolchain)
    (planState generateState : σ) :
    TellsWhatIsDone
      ((standardInvocations (arguments.apply config.layoutParameters)).map
        (.ofInvocation toolchain arguments.protos))
      surroundings.Succeeds
      ((surroundings.recorded.plan arguments config).observe planState)
      ((surroundings.recorded.generate filter arguments config).observe generateState) := by
  obtain ⟨start, whole, ends⟩ :=
    surroundings.observe_generate filter arguments found given generateState
  rw [plannedEffects_eq] at start whole
  constructor
  · rw [surroundings.observe_plan arguments found, planText_eq]
  · exact commandLines_listing
  · exact fun run _ apart => wordsOf_line apart
  · exact start
  · intro succeeded
    refine ⟨whole succeeded, ?_⟩
    rw [whole succeeded, filterMap_command?_effects]
  · exact ends

/-- For every document that holds settings and every choice of arguments, a plan tells what a
generation does, and each command of the forge carries the settings that come of both. Neither of
them does anything when there is no toolchain. The document may come from any text that it is read
from. -/
theorem plan_tells_what_generate_does {document : Entries} (settings : HoldsSettings document)
    {arguments : LayoutArguments} (given : arguments.protos ≠ []) {σ : Type}
    (surroundings : Surroundings (StateM σ)) (filter : Filter) (planState generateState : σ) :
    ∃ config, Config.ofDocument document = some config ∧
      (∀ text, Toml.read text = some document → Config.ofText text = .ok config) ∧
      let run (task : Task) (state : σ) : Except RunError Unit × List Effect :=
        (surroundings.recorded.perform filter (some task) (.ok config)).observe state
      let planned := run (.plan arguments) planState
      let generated := run (.generate arguments) generateState
      (∀ error, config.resolveToolchain surroundings.environment = .error error →
        planned = (.error (.config error), []) ∧ generated = (.error (.config error), [])) ∧
      (∀ toolchain, config.resolveToolchain surroundings.environment = .ok toolchain →
        ∃ first rest,
          TellsWhatIsDone (first :: rest) surroundings.Succeeds planned generated ∧
            WritesMessages arguments document toolchain first ∧
            List.Forall₂ (CarriesSettings arguments document)
              ["entrypoint", "config", "gateway", "methods"] rest) := by
  obtain ⟨config, read, set⟩ := Config.setBy_ofDocument settings
  refine ⟨config, read, ?_, ?_⟩
  · intro text parsed
    rw [Config.ofText, parsed, Option.bind_some, read]
  · intro run planned generated
    have planning : planned = (surroundings.recorded.plan arguments config).observe planState := rfl
    have generating :
        generated = (surroundings.recorded.generate filter arguments config).observe generateState :=
      rfl
    rw [planning, generating]
    constructor
    · intro error missing
      have resolved : config.resolveToolchain surroundings.recorded.environment = .error error :=
        missing
      rw [Surroundings.plan, Surroundings.generate, resolved]
      exact ⟨rfl, rfl⟩
    · intro toolchain found
      obtain ⟨first, rest, order, messages, carried⟩ :=
        shownRuns_cons (hasSettings_apply arguments set) toolchain
      have tells := tellsWhatIsDone surroundings filter given found planState generateState
      rw [order] at tells
      exact ⟨first, rest, tells, messages, carried⟩

/-- A machine on which nothing fails, and which counts the commands that it runs. -/
def Surroundings.obliging : Surroundings (StateM Nat) where
  environment := { home? := some (.ofText "/home/acme") }
  look := fun _ => return .missing
  input := return ⟨[], none⟩
  print := fun _ => return ()
  log := fun _ => return ()
  createDirectory := fun _ => return .ok ()
  start := fun _ _ => do
    modify (· + 1)
    return .ok (.exited 0)

/-- The text of a file that sets two of the keys. -/
def acmeText : String :=
  "[layout]\nbase = \"github.com/acme/api\"\n\n[deploy]\nnamespace = \"prod\"\n"

/-- The document that the text stands for. -/
def acmeDocument : Entries :=
  [ ("layout", .table .header [("base", .text "github.com/acme/api")]),
    ("deploy", .table .header [("namespace", .text "prod")]) ]

/-- The configuration that it sets. -/
def acmeConfig : Config :=
  { layout := { base := "github.com/acme/api" }, deploy := { kubeNamespace := "prod" } }

theorem ofDocument_acmeDocument : Config.ofDocument acmeDocument = some acmeConfig := by
  decide +kernel

theorem ofText_acmeText : Config.ofText acmeText = .ok acmeConfig := by
  decide +kernel

theorem holdsSettings_acmeDocument : HoldsSettings acmeDocument := by
  constructor
  · decide
  · intro known inKnown value member
    simp only [Config.knownKeys, List.mem_cons, List.not_mem_nil, or_false] at inKnown
    rcases inKnown with rfl | rfl | rfl | rfl
    · have table : value = .table .header [("base", .text "github.com/acme/api")] := by
        simpa [acmeDocument] using member
      exact ⟨_, _, table, by decide, by simp, by simp⟩
    · have table : value = .table .header [("namespace", .text "prod")] := by
        simpa [acmeDocument] using member
      exact ⟨_, _, table, by decide, by simp, by simp⟩
    · simp [acmeDocument] at member
    · simp [acmeDocument] at member
  · simp [acmeDocument, Config.knownKeys]

/-- With the home directory of the machine, the file leads to a toolchain. -/
theorem exists_toolchain_acme :
    ∃ toolchain, acmeConfig.resolveToolchain Surroundings.obliging.environment = .ok toolchain := by
  have found : (acmeConfig.resolveToolchain Surroundings.obliging.environment).toOption.isSome =
      true := by
    decide +kernel
  cases resolved : acmeConfig.resolveToolchain Surroundings.obliging.environment with
  | error error =>
      rw [resolved] at found
      cases found
  | ok toolchain => exact ⟨toolchain, rfl⟩

/-- With the file, a directory given as an argument over a default and a namespace given over one in
the file, on a machine on which nothing fails. -/
theorem plan_tells_what_generate_does_acme :
    let arguments : LayoutArguments :=
      { genDir? := some "out", kubeNamespace? := some "staging", protos := ["acme/users.proto"] }
    let surroundings := Surroundings.obliging
    let run (task : Task) : Except RunError Unit × List Effect :=
      (surroundings.recorded.perform Log.defaultFilter (some task)
        (Config.ofText acmeText)).observe 0
    HoldsSettings acmeDocument ∧ arguments.protos ≠ [] ∧ surroundings.Succeeds ∧
      ∃ (toolchain : Toolchain) (first : ShownRun) (rest : List ShownRun),
        TellsWhatIsDone (first :: rest) surroundings.Succeeds (run (.plan arguments))
            (run (.generate arguments)) ∧
          WritesMessages arguments acmeDocument toolchain first ∧
          List.Forall₂ (CarriesSettings arguments acmeDocument)
            ["entrypoint", "config", "gateway", "methods"] rest := by
  intro arguments surroundings run
  have given : arguments.protos ≠ [] := by decide
  have succeeds : surroundings.Succeeds := ⟨fun _ _ => rfl, fun _ _ _ => rfl⟩
  obtain ⟨config, read, -, -, tells⟩ := plan_tells_what_generate_does
    holdsSettings_acmeDocument given surroundings Log.defaultFilter 0 0
  cases Option.some.inj (ofDocument_acmeDocument.symm.trans read)
  obtain ⟨toolchain, resolved⟩ := exists_toolchain_acme
  simp only [run, ofText_acmeText]
  exact ⟨holdsSettings_acmeDocument, given, succeeds, toolchain, tells toolchain resolved⟩

end MethodForge.CommandLine
