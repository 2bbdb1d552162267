/-
Module: MethodForge.Proofs.DispatchFile.Paths
Purpose: The relative paths in a file of directives. `go generate` runs a directive in the directory of
  its file, so the include directory that stands for the root, the files to generate for and the
  output directory are all given as seen from there. The root and the files are found by different
  formulas, and they agree as long as the directory of the file goes down from the root. This holds of
  every directive in the text that is written.
Main exports: PlannedRun.Placed, WritesDirectives.placed, LeadsHome, WritesDirectives.inWords,
  directives_lead_home
-/
import MethodForge.Proofs.DispatchFile.ReadBack
import MethodForge.Proofs.Naming

namespace MethodForge

open Path (Inward clean includeRoot isRooted join)
open Schema (Request Target)
open Text (IsIdentifier IsWord IsWrittenFrom dropEndBlanks linesOf startingWith)

/-- Whether a target and its service have identifiers for names. -/
def Schema.Target.HasIdentifiers (target : Target) : Prop :=
  IsIdentifier target.serviceName ∧ IsIdentifier target.methodName

instance (target : Target) : Decidable target.HasIdentifiers :=
  inferInstanceAs (Decidable (_ ∧ _))

theorem Schema.Target.HasIdentifiers.named {target : Target}
    (identifiers : target.HasIdentifiers) : target.Named :=
  ⟨identifiers.1.1, identifiers.2.1⟩

/-- Whether the output of a planned run, as seen from `nested`, is where its record says, and the
root is seen from there as it is from `nested`. -/
structure PlannedRun.Placed (nested : String) (run : PlannedRun) : Prop where
  root : Path.toRoot run.directory run.parameters.nestedDirectory = includeRoot nested
  output : clean (join [nested, run.directory]) = clean run.parameters.nestedDirectory

/-- A run that writes next to its directive is placed. -/
theorem placed_here {nested : String} (inward : Inward nested) {parameters : Parameters}
    (same : parameters.nestedDirectory = nested) :
    PlannedRun.Placed nested ⟨".", parameters⟩ := by
  constructor
  · rw [same]
    exact Path.toRoot_dot inward
  · rw [same, Path.join_dot]
    exact Path.clean_clean nested

/-- A run that writes into a directory below that of its directive is placed. -/
theorem placed_below {nested directory : String} (inward : Inward nested)
    (below : Inward directory) {parameters : Parameters}
    (same : parameters.nestedDirectory = join [nested, directory]) :
    PlannedRun.Placed nested ⟨directory, parameters⟩ := by
  constructor
  · rw [same]
    exact Path.toRoot_join inward below
  · rw [same]

/-- Every run of a file of directives is placed. -/
theorem WritesDirectives.placed {toolchain : Toolchain} {parameters : Parameters}
    {request : Request} {generator : Generator} {file : DispatchFile}
    (writes : WritesDirectives toolchain parameters request generator file)
    (inward : Inward parameters.nestedDirectory)
    (identifiers : ∀ target ∈ request.targets, target.HasIdentifiers) {run : PlannedRun}
    (member : run ∈ file.runs) : PlannedRun.Placed parameters.nestedDirectory run := by
  cases writes with
  | @every _ fanout dispatcher every =>
      obtain ⟨target, inRequest, rfl⟩ := mem_planAll member
      obtain ⟨service, method⟩ := identifiers target inRequest
      cases fanout with
      | perMethod => exact placed_below inward (Naming.inward_methodDirectory service method) rfl
      | shared => exact placed_here inward rfl
  | single found =>
      rw [List.mem_singleton.1 member]
      exact placed_here inward rfl

/-- A file of directives is made of words when its commands are. -/
theorem WritesDirectives.inWords {toolchain : Toolchain} {parameters : Parameters}
    {request : Request} {generator : Generator} {file : DispatchFile}
    (writes : WritesDirectives toolchain parameters request generator file)
    (identifiers : ∀ target ∈ request.targets, target.HasIdentifiers)
    (words : ∀ run ∈ file.runs, ∀ word ∈ (file.commandOf run).words, IsWord word) :
    file.InWords := by
  cases writes with
  | @every _ fanout dispatcher every =>
      have names : ∀ name ∈ ["methods", "entrypoint", "config"], IsWord name := by decide
      refine ⟨names _ (name_of_mem_dispatchers dispatcher), fun run member => ?_, words⟩
      obtain ⟨target, inRequest, rfl⟩ := mem_planAll member
      obtain ⟨service, method⟩ := identifiers target inRequest
      cases fanout with
      | perMethod => exact Naming.isWord_methodDirectory service method
      | shared => exact (by decide : IsWord ".")
  | single found =>
      obtain ⟨-, inRequest, -⟩ := Parameters.target_ok found
      refine ⟨(identifiers _ inRequest).2.isWord_lowercase, fun run member => ?_, words⟩
      rw [List.mem_singleton.1 member]
      exact (by decide : IsWord ".")

/-- What holds of a command that is run in the directory `nested`: from there `root` is the root, the
files to generate for are found through it, and the output goes where the record says that it
does. -/
structure LeadsHome (nested : String) (fileNames : List String) (command : Command)
    (root directory : String) (record : Parameters) : Prop where
  /-- The third include directory is the root. -/
  includeArguments : ∃ first second,
    command.arguments.take 3 = ["-I" ++ first, "-I" ++ second, "-I" ++ root]
  rootFound : join [nested, root] = "."
  /-- What follows the options is the files, through the root. -/
  fileArguments : command.arguments.drop 6 = fileNames.map fun name => join [root, name]
  filesFound : ∀ name ∈ fileNames, clean (join [nested, join [root, name]]) = clean name
  outArgument : command.arguments[4]? = some ("--" ++ record.name ++ "_out=" ++ directory)
  /-- The option is the text form of the record. -/
  optionArgument : ∃ encoded,
    command.arguments[5]? = some ("--" ++ record.name ++ "_opt=" ++ encoded) ∧
      Parameters.decode encoded = .ok record
  outputFound : clean (join [nested, directory]) = clean record.nestedDirectory

theorem WritesDirectives.leadsHome {toolchain : Toolchain} {parameters : Parameters}
    {request : Request} {generator : Generator} {file : DispatchFile}
    (writes : WritesDirectives toolchain parameters request generator file)
    (files : ∀ name ∈ request.fileNames, name ≠ "" ∧ isRooted name.toList = false)
    (identifiers : ∀ target ∈ request.targets, target.HasIdentifiers)
    (inward : Inward parameters.nestedDirectory) {run : PlannedRun} (member : run ∈ file.runs) :
    LeadsHome parameters.nestedDirectory request.fileNames (file.commandOf run)
      (includeRoot parameters.nestedDirectory) run.directory run.parameters := by
  -- The root is seen by its own formula here and by that of the files below; `join_escape_eq` is
  -- where the two meet.
  have placed := writes.placed inward identifiers member
  have named : ∀ target ∈ request.targets, target.Named :=
    fun target inRequest => (identifiers target inRequest).named
  have protos : file.protos =
      request.fileNames.map fun name => join [includeRoot parameters.nestedDirectory, name] := by
    rw [writes.protos_eq, protoArguments]
    refine List.map_congr_left fun name inRequest => ?_
    exact Path.join_escape_eq (files name inRequest).2 (files name inRequest).1 _
  have includes : (file.commandOf run).arguments.take 3 =
      [ "-I" ++ file.toolchain.protocInclude, "-I" ++ file.toolchain.optionsInclude,
        "-I" ++ Path.toRoot run.directory run.parameters.nestedDirectory ] := rfl
  rw [placed.root] at includes
  exact {
    includeArguments := ⟨_, _, includes⟩
    rootFound := Path.join_includeRoot inward
    fileArguments := protos
    filesFound := fun name inRequest => Path.clean_join_includeRoot inward (files name inRequest).2
    outArgument := rfl
    optionArgument := ⟨_, rfl, writes.decode_of_mem_runs named member⟩
    outputFound := placed.output }

/-- A file of directives is written from directives that all lead home from its directory. They are
all that `go generate` finds in it where no line is broken, and its commands are read back from it
where they are made of words. -/
theorem directives_lead_home {toolchain : Toolchain} {parameters : Parameters} {request : Request}
    {generator : Generator} {file : DispatchFile}
    (writes : WritesDirectives toolchain parameters request generator file)
    (files : ∀ name ∈ request.fileNames, name ≠ "" ∧ isRooted name.toList = false)
    (identifiers : ∀ target ∈ request.targets, target.HasIdentifiers)
    (inward : Inward parameters.nestedDirectory) :
    ∃ (content : String) (directives : List Directive),
      (generator.generate parameters request).value = .ok [⟨DispatchFile.fileName, content⟩] ∧
        IsWrittenFrom content (directiveLines file.package directives) ∧
        directives.length = file.runs.length ∧
        (∀ directive ∈ directives, ∃ root directory record,
          LeadsHome parameters.nestedDirectory request.fileNames directive.command root directory
            record) ∧
        ((∀ line ∈ directiveLines file.package directives, '\n' ∉ line.toList) →
          ∀ line ∈ startingWith "//go:generate " (linesOf content), ∃ directive ∈ directives,
            (∃ directory ∈ directive.creates?,
              line = dropEndBlanks (createLine directory).toList) ∨
            line = dropEndBlanks (runLine directive.command).toList) ∧
        ((∀ directive ∈ directives, ∀ word ∈ directive.command.words, IsWord word) →
          readCommands content = directives.map fun directive => directive.command.words) := by
  refine ⟨Text.tidy file.text, file.directives, writes.generate, file.isWrittenFrom,
    List.length_map _, ?_, fun closed line member => ?_, fun words => ?_⟩
  · intro directive member
    obtain ⟨run, inFile, rfl⟩ := List.mem_map.1 member
    exact ⟨_, _, _, writes.leadsHome files identifiers inward inFile⟩
  · exact exists_directive_of_mem file.isWrittenFrom closed member
  · have inWords := writes.inWords identifiers fun run member =>
      words _ (List.mem_map_of_mem member)
    rw [DispatchFile.readCommands_tidy inWords, DispatchFile.directives, List.map_map]
    rfl

/-- The directives of `methods` for two methods, two levels below the root. -/
theorem directives_lead_home_users :
    let parameters : Parameters := { nestedDirectory := "./gen//methods/" }
    ∃ (content : String) (directives : List Directive),
      ((methodsGenerator default).generate parameters Request.users).value =
          .ok [⟨DispatchFile.fileName, content⟩] ∧
        IsWrittenFrom content (directiveLines "methods" directives) ∧ directives.length = 2 ∧
        ∀ directive ∈ directives, ∃ root directory record,
          LeadsHome "./gen//methods/" ["acme/users.proto"] directive.command root directory
            record := by
  intro parameters
  have dispatcher : (methodsGenerator default, Fanout.perMethod) ∈ dispatchers default := by
    simp [dispatchers]
  have writes : WritesDirectives default parameters Request.users _ _ :=
    .every dispatcher (by decide)
  obtain ⟨content, directives, generated, written, two, home, -⟩ :=
    directives_lead_home writes (by decide) (by decide) (by decide)
  exact ⟨content, directives, generated, written, two, home⟩

end MethodForge
