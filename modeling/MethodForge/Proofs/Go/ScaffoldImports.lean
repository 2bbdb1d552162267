/-
Module: MethodForge.Proofs.Go.ScaffoldImports
Purpose: The imports of a scaffold. Whatever the shape of a method, the first line of its implementation
  points to both of its types, so the packages of these are imported and nothing else is. A package is
  that of the last file declaring the message among those that Go code can import; a message that none
  of them declares is at home. Therefore Go finds every type of a scaffold and uses every import. Both
  are stated on the text that is written.
Main exports: Request.packages, Request.declaringPackage?, find?_declarations, qualifier, PointsTo,
  Signature.pointsTo_implementationHeader, importBlock, importBlock_scaffold,
  startingWith_implementationKey, mem_aliases_signature, bound_signature, scaffold_imports_exact
-/
import MethodForge.Proofs.Go.Declarations
import MethodForge.Proofs.Go.Imports

namespace MethodForge

open Schema (File Message Method Request Target)
open Text (IsWrittenFrom Neat filter_startsWith_eq_nil linesOf startingWith startsWith
  startsWith_of_isPrefix)

namespace Schema.Request

/-- The files that Go code can import, each with the import path of its package: that in the generated
tree if the file is generated for, and the one that it names if not. -/
def packages (request : Request) (base genDir : String) : List (File × String) :=
  request.files.filterMap fun file =>
    if request.isGenerated file then
      some (file, Path.join [base, genDir, "proto", Path.parent file.name])
    else file.goImportPath?.map (file, ·)

/-- The last file that Go code can import and that declares a message, with the import path of its
package. -/
def declaringPackage? (request : Request) (base genDir qualified : String) :
    Option (File × String) :=
  (request.packages base genDir).reverse.find? fun entry => decide (qualified ∈ entry.1.fullNames)

end Schema.Request

namespace Go

/-! ### The last declaration of a message -/

section

variable {request : Request} {base genDir : String}

/-- All that a file declares is in its package. -/
theorem find?_fileDeclarations {file : File} {path : String}
    (importable : packagePath? request base genDir file = some path) (qualified : String) :
    ((fileDeclarations request base genDir file).reverse.find? (·.qualified == qualified)).map
        (·.path) =
      if qualified ∈ file.fullNames then some path else none := by
  have names : (fileDeclarations request base genDir file).map (·.qualified) = file.fullNames := by
    have able : request.isImportable file = (packagePath? request base genDir file).isSome :=
      isImportable_eq
    rw [qualified_fileDeclarations, able, importable]
    rfl
  cases search : (fileDeclarations request base genDir file).reverse.find?
      (·.qualified == qualified) with
  | none =>
      rw [if_neg]
      · rfl
      · intro member
        rw [← names] at member
        obtain ⟨declaration, inFile, rfl⟩ := List.mem_map.1 member
        have missed := List.find?_eq_none.1 search declaration (List.mem_reverse.2 inFile)
        exact missed (beq_self_eq_true _)
  | some declaration =>
      have inFile := List.mem_reverse.1 (List.mem_of_find?_eq_some search)
      have same := List.find?_some search
      rw [beq_iff_eq] at same
      have declared : qualified ∈ file.fullNames := by
        rw [← names, ← same]
        exact List.mem_map_of_mem inFile
      rw [fileDeclarations_eq importable] at inFile
      obtain ⟨path, -, rfl⟩ := List.mem_map.1 inFile
      rw [if_pos declared]
      rfl

theorem packages_eq (request : Request) (base genDir : String) :
    request.packages base genDir = request.files.filterMap fun file =>
      (packagePath? request base genDir file).map (file, ·) := by
  rw [Request.packages]
  congr 1
  funext file
  unfold packagePath?
  split
  · rfl
  · rfl

/-- Of several declarations of a message the last one is found, so its package is that of the last
file. -/
theorem find?_declarations (request : Request) (base genDir qualified : String) :
    ((declarations request base genDir).reverse.find? (·.qualified == qualified)).map (·.path) =
      (request.declaringPackage? base genDir qualified).map Prod.snd := by
  rw [declarations, Request.declaringPackage?, packages_eq]
  induction request.files with
  | nil => rfl
  | cons file rest ih =>
      rw [List.flatMap_cons, List.reverse_append, List.find?_append, Option.map_or, ih,
        List.filterMap_cons]
      cases importable : packagePath? request base genDir file with
      | none =>
          have none : fileDeclarations request base genDir file = [] := by
            rw [fileDeclarations, importable]
          rw [none]
          exact Option.or_none
      | some path =>
          rw [find?_fileDeclarations importable, Option.map_some, List.reverse_cons,
            List.find?_append, Option.map_or, List.find?_singleton]
          by_cases declared : qualified ∈ file.fullNames
          · simp [declared]
          · simp [declared]

theorem path_denoted_start (home : File) (qualified : String) :
    ((Resolver.start request home base genDir).denoted qualified).1 =
      match request.declaringPackage? base genDir qualified with
      | none => Path.join [base, genDir, "proto", Path.parent home.name]
      | some (_, path) => path := by
  have last := find?_declarations request base genDir qualified
  rw [Resolver.denoted, Resolver.find?, Resolver.start]
  cases declared : request.declaringPackage? base genDir qualified with
  | none =>
      rw [declared, Option.map_none, Option.map_eq_none_iff] at last
      simp only [last]
      rfl
  | some entry =>
      obtain ⟨file, path⟩ := entry
      rw [declared, Option.map_some, Option.map_eq_some_iff] at last
      obtain ⟨declaration, found, same⟩ := last
      simp only [found]
      exact same

/-- A type is at home when its message is declared there last, or not declared. -/
theorem path_denoted_start_eq_home (home : File) (qualified : String) :
    ((Resolver.start request home base genDir).denoted qualified).1 =
        Path.join [base, genDir, "proto", Path.parent home.name] ↔
      request.declaringPackage? base genDir qualified = none ∨
        ∃ source, request.declaringPackage? base genDir qualified =
          some (source, Path.join [base, genDir, "proto", Path.parent home.name]) := by
  rw [path_denoted_start]
  cases request.declaringPackage? base genDir qualified with
  | none => simp
  | some entry =>
      obtain ⟨file, path⟩ := entry
      simp

end

/-! ### Types in the first line of an implementation -/

/-- The alias by which Go code names a type: what comes before the first dot. -/
def qualifier (type : String) : String :=
  String.ofList (type.toList.takeWhile (· ≠ '.'))

theorem qualifier_text {type : GoType} (dotless : '.' ∉ type.alias.toList) :
    qualifier type.text = type.alias := by
  have plain : ∀ character ∈ type.alias.toList, decide (character ≠ '.') = true := by
    intro character member
    rw [decide_eq_true_eq]
    rintro rfl
    exact dotless member
  have cut : type.text.toList.takeWhile (· ≠ '.') = type.alias.toList := by
    rw [GoType.text, String.toList_append, String.toList_append, List.append_assoc,
      List.takeWhile_append_of_pos plain]
    simp
  rw [qualifier, cut, String.ofList_toList]

/-- Whether a line points to two types, one after the other, and to nothing else. -/
def PointsTo (line first second : String) : Prop :=
  ∃ before between after, line = before ++ "*" ++ first ++ between ++ "*" ++ second ++ after ∧
    '*' ∉ before.toList ∧ '*' ∉ between.toList ∧ '*' ∉ after.toList

/-- What starts an implementation. -/
def implementationKey : String :=
  "func Impl("

namespace Signature

/-- In each shape, the first line of an implementation points to both types of its method. -/
theorem exists_implementationHeader_eq (signature : Signature) :
    ∃ before between after : String,
      signature.implementationHeader =
          implementationKey ++ before ++ "*" ++ signature.request ++ between ++ "*" ++
            signature.response ++ after ++ "\x7b" ∧
        '*' ∉ before.toList ∧ '*' ∉ between.toList ∧ '*' ∉ after.toList := by
  obtain ⟨shape, service, method, request, response⟩ := signature
  cases shape with
  | unary =>
      refine ⟨"ctx context.Context, req ", ") (", ", error) ", ?_, by decide, by decide, by decide⟩
      have text : implementationHeader ⟨.unary, service, method, request, response⟩ =
          "func Impl(ctx context.Context, req *" ++ request ++ ") (*" ++ response ++
            ", error) \x7b" := rfl
      simp [text, implementationKey, ← String.toList_inj]
  | clientStreaming =>
      refine ⟨"ctx context.Context, input <-chan ", ") (", ", error) ", ?_, by decide, by decide,
        by decide⟩
      have text : implementationHeader ⟨.clientStreaming, service, method, request, response⟩ =
          "func Impl(ctx context.Context, input <-chan *" ++ request ++ ") (*" ++ response ++
            ", error) \x7b" := rfl
      simp [text, implementationKey, ← String.toList_inj]
  | serverStreaming =>
      refine ⟨"ctx context.Context, req ", ", output chan<- ", ") error ", ?_, by decide, by decide,
        by decide⟩
      have text : implementationHeader ⟨.serverStreaming, service, method, request, response⟩ =
          "func Impl(ctx context.Context, req *" ++ request ++ ", output chan<- *" ++ response ++
            ") error \x7b" := rfl
      simp [text, implementationKey, ← String.toList_inj]
  | bidirectional =>
      refine ⟨"ctx context.Context, input <-chan ", ", output chan<- ", ") error ", ?_, by decide,
        by decide, by decide⟩
      have text : implementationHeader ⟨.bidirectional, service, method, request, response⟩ =
          "func Impl(ctx context.Context, input <-chan *" ++ request ++ ", output chan<- *" ++
            response ++ ") error \x7b" := rfl
      simp [text, implementationKey, ← String.toList_inj]

theorem pointsTo_implementationHeader (signature : Signature) :
    PointsTo signature.implementationHeader signature.request signature.response := by
  obtain ⟨before, between, after, text, plainBefore, plainBetween, plainAfter⟩ :=
    signature.exists_implementationHeader_eq
  refine ⟨implementationKey ++ before, between, after ++ "\x7b", ?_, ?_, plainBetween, ?_⟩
  · rw [text, ← String.append_assoc]
  · simp [implementationKey, plainBefore]
  · simp [plainAfter]

theorem prefix_implementationHeader (signature : Signature) :
    implementationKey.toList <+: signature.implementationHeader.toList := by
  obtain ⟨before, between, after, text, -⟩ := signature.exists_implementationHeader_eq
  rw [text]
  simp only [String.append_assoc, String.toList_append (s := implementationKey)]
  exact List.prefix_append _ _

/-- The first line of an implementation ends in a bracket. -/
theorem neat_implementationHeader {signature : Signature}
    (closed : '\n' ∉ signature.implementationHeader.toList) : Neat signature.implementationHeader := by
  obtain ⟨before, between, after, text, -⟩ := signature.exists_implementationHeader_eq
  rw [text] at closed ⊢
  rw [String.toList_append] at closed
  exact Text.neat_append_word (fun inside => closed (List.mem_append_left _ inside)) (by decide)

/-- What an implementation returns that nobody has filled in. -/
def todoAnswer (signature : Signature) : String :=
  "\treturn " ++ noResponse signature.shape ++ "errors.New(`" ++ signature.todoMessage ++ "`)"

theorem implementation_eq (signature : Signature) :
    signature.implementation =
      [signature.implementationHeader, signature.todoAnswer, "\x7d"] := rfl

end Signature

/-! ### Import blocks -/

/-- The lines between the brackets of an import. -/
def importBlock (lines : List (List Char)) : List (List Char) :=
  ((lines.dropWhile (· ≠ "import (".toList)).drop 1).takeWhile (· ≠ ")".toList)

/-- No import ends its block. -/
theorem importLine_ne_bracket (imported : GoImport) : (importLine imported).toList ≠ ")".toList := by
  simp [importLine, aliasKey]

section

variable {content package header answer : String} {imports : List GoImport}
  (written : IsWrittenFrom content (scaffoldLines package imports [header, answer, "\x7d"]))
  (closed : ∀ line ∈ scaffoldLines package imports [header, answer, "\x7d"], '\n' ∉ line.toList)
include written closed

/-- The lines of a scaffold, up to the blanks that may end the first and the last ones. -/
theorem linesOf_scaffold :
    linesOf content =
      Text.dropEndBlanks ("package " ++ package).toList :: [] :: "import (".toList ::
        (["\t\"context\"", "\t\"errors\"", ""].map String.toList ++
          (imports.map fun imported => (importLine imported).toList) ++
          ")".toList ::
            (["", "// Avoid import errors for streams.", "var _ = context.TODO()", "",
              header, answer, "\x7d"].map fun line => Text.dropEndBlanks line.toList)) := by
  have ended : (scaffoldLines package imports [header, answer, "\x7d"]).getLast? = some "\x7d" := by
    rw [scaffoldLines, List.getLast?_append_cons]
    rfl
  have typed : imports.map (fun imported => (importLine imported).toList) =
      imports.map fun imported => Text.dropEndBlanks (importLine imported).toList := by
    refine List.map_congr_left fun imported member => ?_
    refine (neat_importLine (closed _ ?_)).2.symm
    simp only [scaffoldLines, List.mem_append, List.mem_map]
    exact .inl (.inl (.inr ⟨imported, member, rfl⟩))
  rw [written.linesOf_eq ended (by decide) (by decide), Text.flatMap_piecesOf_of_closed closed,
    typed, scaffoldLines, List.map_append, List.map_append, List.map_append, List.map_map,
    List.append_assoc, List.append_assoc, List.append_assoc]
  rfl

/-- The import block of a scaffold lists two packages of the standard library and the imports that it
is written from. -/
theorem importBlock_scaffold :
    importBlock (linesOf content) =
      ["\t\"context\"", "\t\"errors\"", ""].map String.toList ++
        imports.map fun imported => (importLine imported).toList := by
  have clause : Text.dropEndBlanks ("package " ++ package).toList ≠ "import (".toList := by
    intro same
    have start := List.rdropWhile_prefix Text.isBlank ("package " ++ package).toList
    have trimmed : "import (".toList <+: ("package " ++ package).toList := same ▸ start
    simp at trimmed
  have plain : ∀ line ∈ ["\t\"context\"", "\t\"errors\"", ""].map String.toList,
      line ≠ ")".toList := by decide
  have inside : ∀ line ∈ ["\t\"context\"", "\t\"errors\"", ""].map String.toList ++
      imports.map (fun imported => (importLine imported).toList),
      decide (line ≠ ")".toList) = true := by
    intro line member
    rw [decide_eq_true_eq]
    rcases List.mem_append.1 member with standard | typed
    · exact plain line standard
    · obtain ⟨imported, -, rfl⟩ := List.mem_map.1 typed
      exact importLine_ne_bracket imported
  rw [importBlock, linesOf_scaffold written closed,
    List.dropWhile_cons_of_pos (by simpa using clause), List.dropWhile_cons_of_pos (by decide),
    List.dropWhile_cons_of_neg (by decide), List.drop_one, List.tail_cons,
    List.takeWhile_append_of_pos inside, List.takeWhile_cons_of_neg (by decide), List.append_nil]

/-- One line of a scaffold starts an implementation. -/
theorem startingWith_implementationKey (starts : implementationKey.toList <+: header.toList)
    (neat : Neat header) (other : ¬ implementationKey.toList <+: answer.toList) :
    startingWith implementationKey (linesOf content) = [header.toList] := by
  have importLines : ∀ line ∈ imports.map importLine,
      ¬ implementationKey.toList <+: line.toList := by
    simp [implementationKey, importLine, aliasKey]
  have last : ∀ line ∈ [answer, "\x7d"], ¬ implementationKey.toList <+: line.toList := by
    rw [List.forall_mem_cons, List.forall_mem_singleton]
    exact ⟨other, by decide⟩
  have one : (scaffoldLines package imports [header, answer, "\x7d"]).filter
      (startsWith implementationKey) = [header] := by
    rw [filter_scaffoldLines imports _ (by simp [implementationKey]) (by decide),
      filter_startsWith_eq_nil importLines, List.filter_cons_of_pos (startsWith_of_isPrefix starts),
      filter_startsWith_eq_nil last, List.nil_append]
  have neatLines : ∀ line ∈ [header], Neat line := by simpa using neat
  rw [written.startingWith_eq closed (by decide) (by rwa [one]), one, List.map_singleton]

end

/-! ### The packages of a signature -/

section

variable {resolver : Resolver} (sound : resolver.Sound) (service : String) (method : Method)
include sound

/-- The types of a signature are qualified by the aliases under which they have been resolved. -/
theorem qualifiers_signature :
    [qualifier (signature resolver service method).1.request,
        qualifier (signature resolver service method).1.response] =
      (resolver.resolveAll [method.inputType, method.outputType]).1.map (·.alias) := by
  let later := (resolver.resolve method.inputType).2
  have input : qualifier (signature resolver service method).1.request =
      (resolver.resolve method.inputType).1.alias :=
    qualifier_text (Resolver.dot_not_mem_alias sound _)
  have output : qualifier (signature resolver service method).1.response =
      (later.resolve method.outputType).1.alias :=
    qualifier_text (Resolver.dot_not_mem_alias (sound.resolve _) _)
  rw [input, output]
  rfl

/-- When nothing was imported before, the imports are named as the types are. -/
theorem mem_aliases_signature (fresh : resolver.imports = []) (label : String) :
    label ∈ (signature resolver service method).2.imports.map (·.alias) ↔
      label ∈ [qualifier (signature resolver service method).1.request,
        qualifier (signature resolver service method).1.response] := by
  have all := resolver.mem_aliases_resolveAll [method.inputType, method.outputType] label
  rw [fresh] at all
  rw [qualifiers_signature sound]
  exact all.trans (or_iff_right List.not_mem_nil)

/-- Home is imported when a type is there. -/
theorem homeAlias_mem_signature (fresh : resolver.imports = []) :
    homeAlias ∈ (signature resolver service method).2.imports.map (·.alias) ↔
      ∃ qualified ∈ [method.inputType, method.outputType],
        (resolver.denoted qualified).1 = resolver.home := by
  rw [mem_aliases_signature sound service method fresh, qualifiers_signature sound,
    Resolver.homeAlias_mem_resolveAll sound]

/-- The alias of each type is bound to the path of its package. -/
theorem bound_signature :
    ∀ entry ∈ [(method.inputType, (signature resolver service method).1.request),
        (method.outputType, (signature resolver service method).1.response)],
      GoImport.mk (qualifier entry.2) (resolver.denoted entry.1).1 ∈
        (signature resolver service method).2.imports := by
  have bound := Resolver.bound_resolveAll sound [method.inputType, method.outputType]
  have labels := qualifiers_signature sound service method
  simp only [Resolver.resolveAll, List.zip_cons_cons, List.zip_nil_right, List.map_cons,
    List.map_nil, List.cons.injEq, and_true, List.forall_mem_cons] at bound labels ⊢
  rw [labels.1, labels.2, signature_snd]
  exact ⟨bound.1, bound.2.1, fun _ member => absurd member List.not_mem_nil⟩

end

end Go

open Go (PointsTo Resolver ScaffoldFile implementationKey importBlock importLine qualifier
  scaffoldLines)

/-- A scaffold is written from its imports and an implementation, and these can be read off the text
where no name breaks a line. It imports, beside two packages of the standard library, those that the
two types in the first line of its implementation are named by, each once. The home package is among
them when one of the messages is declared there, or by no file that Go code can import. The alias of
each type is bound to the package of the last such file that declares its message, and to home when
there is none. -/
theorem scaffold_imports_exact {parameters : Parameters} {request : Request} {target : Target}
    (found : parameters.target request = .ok target) :
    let file := ScaffoldFile.ofTarget parameters request target
    let header := file.signature.implementationHeader
    let declaring := request.declaringPackage? parameters.base parameters.genDir
    let home := Path.join [parameters.base, parameters.genDir, "proto", Path.parent target.file.name]
    (∃ content answer,
      let lines := scaffoldLines (Naming.methodPackage target.methodName) file.imports
        [header, answer, "\x7d"]
      (scaffoldGenerator.generate parameters request).value = .ok [⟨goFileName, content⟩] ∧
        IsWrittenFrom content lines ∧
        ((∀ line ∈ lines, '\n' ∉ line.toList) →
          importBlock (linesOf content) =
              ["\t\"context\"", "\t\"errors\"", ""].map String.toList ++
                file.imports.map (fun imported => (importLine imported).toList) ∧
            startingWith implementationKey (linesOf content) = [header.toList])) ∧
      PointsTo header file.signature.request file.signature.response ∧
      (file.imports.map (·.alias)).Nodup ∧
      (∀ label, label ∈ file.imports.map (·.alias) ↔
        label ∈ [qualifier file.signature.request, qualifier file.signature.response]) ∧
      ("pb" ∈ file.imports.map (·.alias) ↔
        ∃ qualified ∈ [target.method.inputType, target.method.outputType],
          declaring qualified = none ∨ ∃ source, declaring qualified = some (source, home)) ∧
      ∀ entry ∈ [(target.method.inputType, file.signature.request),
          (target.method.outputType, file.signature.response)],
        (declaring entry.1 = none → ⟨qualifier entry.2, home⟩ ∈ file.imports) ∧
        ∀ source path, declaring entry.1 = some (source, path) →
          ⟨qualifier entry.2, path⟩ ∈ file.imports := by
  intro file header declaring home
  let start := Resolver.start request target.file parameters.base parameters.genDir
  have sound : start.Sound := Resolver.sound_start _ _ _ _
  have fresh : start.imports = [] := rfl
  obtain ⟨content, generated, written⟩ := scaffoldGenerator_written found
  rw [Go.Signature.implementation_eq] at written
  refine ⟨⟨content, _, generated, written, fun closed => ?_⟩,
    file.signature.pointsTo_implementationHeader, ?_, ?_, ?_, ?_⟩
  · have starts := file.signature.prefix_implementationHeader
    have neat : Neat header := by
      apply Go.Signature.neat_implementationHeader
      exact closed _ (List.mem_append_right _ List.mem_cons_self)
    have answer : ¬ implementationKey.toList <+: file.signature.todoAnswer.toList := by
      simp [implementationKey, Go.Signature.todoAnswer]
    exact ⟨Go.importBlock_scaffold written closed,
      Go.startingWith_implementationKey written closed starts neat answer⟩
  · exact Resolver.nodup_aliases (sound.signature target.serviceName target.method)
  · exact Go.mem_aliases_signature sound target.serviceName target.method fresh
  · apply (Go.homeAlias_mem_signature sound target.serviceName target.method fresh).trans
    apply exists_congr
    intro qualified
    exact and_congr_right fun _ => Go.path_denoted_start_eq_home target.file qualified
  · intro entry member
    have bound : ⟨qualifier entry.2, (start.denoted entry.1).1⟩ ∈ file.imports :=
      Go.bound_signature sound target.serviceName target.method entry member
    have stands : (start.denoted entry.1).1 =
        match declaring entry.1 with
        | none => home
        | some (_, path) => path := Go.path_denoted_start target.file entry.1
    rw [stands] at bound
    constructor
    · intro unknown
      simpa only [unknown] using bound
    · intro source path declares
      simpa only [declares] using bound

/-- A file that declares a message which another one has declared already, in a package of its own. -/
def Go.vendoredFile : File :=
  ((File.named "vendor/empty.proto" "google.protobuf").withGoPackage
    "example.com/vendored").withMessage (.named "Empty")

/-- A request for a method that takes a message declared twice, and gives one of a file that names no
package. -/
def Schema.Request.vendored : Request where
  fileNames := ["acme/users.proto"]
  files :=
    [ Go.emptiesFile, Go.vendoredFile,
      (File.named "legacy/legacy.proto" "legacy").withMessage (.named "Record"),
      (File.named "acme/users.proto" "acme").withService
        (.named "Users"
          [(Method.named "Drop" ".google.protobuf.Empty" ".legacy.Record").streaming true false]) ]

/-- The message declared twice is in the package of the last file, the other one at home. -/
theorem scaffold_imports_exact_vendored :
    let parameters : Parameters := { name := "scaffold", service := "Users", method := "Drop" }
    let target := Request.vendored.targets[0]
    parameters.target Request.vendored = .ok target ∧
      ∃ content answer imports,
        (scaffoldGenerator.generate parameters Request.vendored).value =
            .ok [⟨goFileName, content⟩] ∧
          IsWrittenFrom content (scaffoldLines "drop" imports
            [ "func Impl(ctx context.Context, input <-chan *pb1.Empty) (*pb.Record, error) \x7b",
              answer, "\x7d" ]) ∧
          (imports.map (·.alias)).Nodup ∧ "pb" ∈ imports.map (·.alias) ∧
          ⟨"pb1", "example.com/vendored"⟩ ∈ imports ∧ ⟨"pb", "proto/acme"⟩ ∈ imports := by
  intro parameters target
  have found : parameters.target Request.vendored = .ok target := rfl
  have exactly := scaffold_imports_exact found
  extract_lets file header declaring home at exactly
  have package : Naming.methodPackage target.methodName = "drop" := by decide
  have line : header =
      "func Impl(ctx context.Context, input <-chan *pb1.Empty) (*pb.Record, error) \x7b" := by decide
  have taken : qualifier file.signature.request = "pb1" := by decide
  have given : qualifier file.signature.response = "pb" := by decide
  have twice : declaring target.method.inputType =
      some (Go.vendoredFile, "example.com/vendored") := rfl
  have unknown : declaring target.method.outputType = none := rfl
  have directory : home = "proto/acme" := by decide
  -- What the file and the packages are does not matter from here on.
  clear_value file header declaring home
  obtain ⟨⟨content, answer, generated, written, -⟩, -, distinct, -, atHome, bound⟩ := exactly
  rw [package, line] at written
  rw [List.forall_mem_cons, List.forall_mem_singleton, taken, given, directory] at bound
  refine ⟨found, content, answer, file.imports, generated, written, distinct, atHome.2 ?_,
    bound.1.2 _ _ twice, bound.2.1 unknown⟩
  exact ⟨_, List.mem_cons_of_mem _ List.mem_cons_self, Or.inl unknown⟩

end MethodForge
