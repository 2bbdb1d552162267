/-
Module: MethodForge.Proofs.Go.ServerInterface
Purpose: The server of a program has the interface of the whole service, whichever of its methods it
  serves. A method that is served and one that is served elsewhere are written from templates of their
  own, which start with the same line, and the types in it are named alike, since they are resolved
  for all methods in their order before anything is written. So the texts of two programs of a service
  differ in what they import as the implementation and in the server methods of the two methods, and
  no other line of a program starts a server method.
Main exports: serverKey, Signature.filter_stub, Program, Program.Serves, programOf,
  generate_programOf, serves_programOf, SharesInterface, entrypoints_share_interface
-/
import MethodForge.Proofs.Go.UsedImports

namespace MethodForge.Go

open Schema (File Method Request Service Target)
open Text (IsWrittenFrom Neat linesOf startingWith startsWith valuesUnder)

/-- What starts a server method. -/
def serverKey : String :=
  "func (s *server) "

/-- Whether some line answers that a method is not implemented. -/
def AnswersUnimplemented (stub : List String) : Prop :=
  ∃ line ∈ stub, "status.Error(codes.Unimplemented, ".toList <:+: line.toList

/-! ### One server method -/

namespace Signature

variable {signature : Signature} {serves : Bool}

theorem startsWith_serverHeader (signature : Signature) :
    startsWith serverKey signature.serverHeader = true := by
  rw [serverHeader_eq, String.append_assoc]
  exact Text.startsWith_append serverKey _

theorem startsWith_channelLine (name type : String) :
    startsWith serverKey (channelLine name type) = false := by
  simp [startsWith, serverKey, channelLine]

/-- Beyond its first line, no line of a server method starts another one. -/
theorem filter_tail_serverMethod (signature : Signature) :
    signature.serverMethod.tail.filter (startsWith serverKey) = [] := by
  have receive : receiveLoop.filter (startsWith serverKey) = [] := by decide +kernel
  have send : sendLoop.filter (startsWith serverKey) = [] := by decide +kernel
  have return_ : callWithInput.filter (startsWith serverKey) = [] := by decide +kernel
  have withRequest : (callWithOutput "stream.Context(), req, output").filter
      (startsWith serverKey) = [] := by decide +kernel
  have withInput : (callWithOutput "stream.Context(), input, output").filter
      (startsWith serverKey) = [] := by decide +kernel
  cases shape : signature.shape with
  | unary =>
      simp only [serverMethod, shape, List.tail_cons]
      rfl
  | clientStreaming =>
      simp only [serverMethod, shape, channelLine_input, List.cons_append, List.tail_cons,
        List.filter_append, List.filter_cons, startsWith_channelLine, receive, return_]
      rfl
  | serverStreaming =>
      simp only [serverMethod, shape, channelLine_output, List.cons_append, List.tail_cons,
        List.filter_append, List.filter_cons, startsWith_channelLine, send, withRequest]
      rfl
  | bidirectional =>
      simp only [serverMethod, shape, channelLine_input, channelLine_output, List.cons_append,
        List.tail_cons, List.filter_append, List.filter_cons, startsWith_channelLine, receive,
        send, withInput]
      rfl

theorem startsWith_unimplementedAnswer (signature : Signature) :
    startsWith serverKey signature.unimplementedAnswer = false := by
  simp [startsWith, serverKey, unimplementedAnswer]

/-- A server method is started by its first line, served here or not. -/
theorem filter_stub :
    (signature.stub serves).filter (startsWith serverKey) = [signature.serverHeader] := by
  have header := signature.startsWith_serverHeader
  cases serves with
  | true =>
      rw [stub, if_pos rfl, serverMethod_eq, List.filter_cons_of_pos header,
        filter_tail_serverMethod]
  | false =>
      have answer := signature.startsWith_unimplementedAnswer
      rw [stub, if_neg Bool.false_ne_true, unimplementedMethod_eq,
        List.filter_cons_of_pos header, List.filter_cons_of_neg (by rw [answer]; decide)]
      rfl

/-- The first line of a server method ends in a bracket. -/
theorem exists_serverHeader_eq (signature : Signature) :
    ∃ before : String, signature.serverHeader = before ++ "\x7b" := by
  have stream : signature.streamArgument = "stream pb." ++ signature.service ++ "_" ++
      signature.method ++ "Server) error " ++ "\x7b" := by
    simp [streamArgument, ← String.toList_inj]
  have ended : ∃ before : String, signature.arguments = before ++ "\x7b" := by
    cases shape : signature.shape with
    | unary =>
        refine ⟨"(ctx context.Context, req *" ++ signature.request ++ ") (*" ++ signature.response ++
          ", error) ", ?_⟩
        simp [arguments, shape, ← String.toList_inj]
    | serverStreaming =>
        simp only [arguments, shape, stream]
        exact ⟨_, String.append_assoc.symm⟩
    | clientStreaming =>
        simp only [arguments, shape, stream]
        exact ⟨_, String.append_assoc.symm⟩
    | bidirectional =>
        simp only [arguments, shape, stream]
        exact ⟨_, String.append_assoc.symm⟩
  obtain ⟨before, same⟩ := ended
  rw [serverHeader_eq, same]
  exact ⟨_, String.append_assoc.symm⟩

theorem neat_serverHeader (closed : '\n' ∉ signature.serverHeader.toList) :
    Neat signature.serverHeader := by
  obtain ⟨before, same⟩ := signature.exists_serverHeader_eq
  rw [same] at closed ⊢
  rw [String.toList_append] at closed
  exact Text.neat_append_word (fun inside => closed (List.mem_append_left _ inside)) (by decide)

theorem answersUnimplemented (signature : Signature) :
    AnswersUnimplemented signature.unimplementedMethod := by
  rw [unimplementedMethod_eq]
  refine ⟨_, List.mem_cons_of_mem _ List.mem_cons_self, ?_⟩
  refine ⟨("\treturn " ++ if signature.shape = .unary then "nil, " else "").toList,
    ("\"" ++ (signature.service ++ "." ++ signature.method ++
      " is served by a different entrypoint") ++ "\")").toList, ?_⟩
  simp [unimplementedAnswer]

/-- A method that is served is not served like one that is served elsewhere. -/
theorem serverMethod_ne_unimplementedMethod (signature : Signature) :
    signature.serverMethod ≠ signature.unimplementedMethod := by
  have short : signature.unimplementedMethod.length = 3 := by
    rw [unimplementedMethod_eq]
    rfl
  intro same
  rw [← same] at short
  cases shape : signature.shape with
  | unary =>
      have call : signature.serverMethod[1]? = some "\treturn impl.Impl(ctx, req)" := by
        simp only [serverMethod, shape, List.getElem?_cons_succ, List.getElem?_cons_zero]
        rfl
      rw [same, unimplementedMethod_eq, List.getElem?_cons_succ, List.getElem?_cons_zero,
        unimplementedAnswer, shape] at call
      simp [← String.toList_inj] at call
  | clientStreaming => simp [serverMethod, shape] at short
  | serverStreaming => simp [serverMethod, shape] at short
  | bidirectional => simp [serverMethod, shape] at short

end Signature

/-! ### All lines of a program -/

theorem filter_intercalate {keeps : String → Bool} {separator : List String}
    (none : separator.filter keeps = []) (pieces : List (List String)) :
    (separator.intercalate pieces).filter keeps = pieces.flatMap (List.filter keeps) := by
  induction pieces with
  | nil => rfl
  | cons first rest ih =>
      cases rest with
      | nil => simp
      | cons second rest =>
          rw [List.intercalate_cons_cons, List.filter_append, List.filter_append, none, ih,
            List.append_nil, ← List.flatMap_cons]

/-- The part of a program that only the service is named in starts no server method. -/
theorem filter_mainLines (service : String) :
    (EntrypointFile.mainLines service).filter (startsWith serverKey) = [] := by
  have other : ∀ line ∈ EntrypointFile.mainLines service, ¬ serverKey.toList <+: line.toList := by
    simp only [EntrypointFile.mainLines, List.forall_mem_cons, List.not_mem_nil, toString_eq,
      String.toList_append, false_imp_iff, implies_true, and_true]
    -- The kernel is slow to decode a literal, so that its characters are put in its place first.
    rw [serverKey, String.toList_ofList]
    and_intros <;> (rw [String.toList_ofList]; simp)
  exact Text.filter_startsWith_eq_nil other

/-- The imports of a program start no server method. -/
theorem filter_programImports (home : String) (others : List GoImport) (implementation : String) :
    (programImports home others implementation).filter (startsWith serverKey) = [] := by
  have importLines (imported : GoImport) : startsWith serverKey (importLine imported) = false := by
    simp [startsWith, serverKey, importLine, aliasKey]
  have packages : programPackages.filter (startsWith serverKey) = [] := by decide +kernel
  have numbered : (others.map importLine).filter (startsWith serverKey) = [] := by
    simp [List.filter_eq_nil_iff, importLines]
  simp only [programImports, sharedImports, List.filter_append, List.filter_cons, packages,
    numbered, importLines]
  rfl

/-- No line of a program starts a server method besides the first lines of its server methods. -/
theorem filter_programLines (service home : String) (others : List GoImport)
    (implementation : String) (stubs : List (List String)) :
    (programLines service (programImports home others implementation) stubs).filter
        (startsWith serverKey) =
      stubs.flatMap (List.filter (startsWith serverKey)) := by
  have separator : [""].filter (startsWith serverKey) = [] := by decide
  have first : ["package main", "", "import ("].filter (startsWith serverKey) = [] := by decide
  have between : [")", "", "type server struct\x7b\x7d", ""].filter (startsWith serverKey) = [] := by
    decide
  have last : ("" :: EntrypointFile.mainLines service).filter (startsWith serverKey) = [] := by
    rw [← List.singleton_append, List.filter_append, separator, filter_mainLines, List.append_nil]
  rw [programLines, List.filter_append, List.filter_append, List.filter_append, List.filter_append,
    first, filter_programImports, between, filter_intercalate separator, last, List.append_nil,
    List.nil_append, List.nil_append, List.nil_append]

/-! ### One program -/

/-- A program as it is written: its text, and the import block and the server methods in it. -/
structure Program where
  content : String
  imports : List String
  stubs : List (List String)

namespace Program

/-- What is written of a program. -/
def ofEntrypoint (entrypoint : EntrypointFile) : Program where
  content := Text.tidy entrypoint.text
  imports := entrypoint.imports
  stubs := entrypoint.stubs

/-- The lines that a program of a service is written from. -/
def lines (program : Program) (service : Service) : List String :=
  programLines service.name program.imports program.stubs

/-- The first lines of the server methods. -/
def headers (program : Program) : List String :=
  program.stubs.filterMap List.head?

/-- What is said of a program that serves one of the methods of a service. -/
structure Serves (program : Program) (service : Service) (served : Method) : Prop where
  /-- The text is written from the imports and then the server methods, one after the other with an
  empty line between them. -/
  written : IsWrittenFrom program.content (program.lines service)
  /-- There is a server method for each method of the service, in the order of the methods, written
  from a signature with its names and its shape. The one of the method that is served serves it, and
  all others answer that they do not. -/
  stub : List.Forall₂
    (fun method stub => ∃ signature : Signature,
      signature.service = service.name ∧ signature.method = method.name ∧
        signature.shape = method.shape ∧
        stub.head? = some signature.serverHeader ∧
        (method = served → stub = signature.serverMethod) ∧
        (method ≠ served →
          stub = signature.unimplementedMethod ∧ stub ≠ signature.serverMethod ∧
            AnswersUnimplemented stub))
    service.methods program.stubs
  /-- No other line of the program starts a server method. -/
  headers : (program.lines service).filter (startsWith serverKey) = program.headers
  /-- So these are the lines of the text that start one, where no name breaks a line. -/
  read : (∀ line ∈ program.lines service, '\n' ∉ line.toList) →
    startingWith serverKey (linesOf program.content) = program.headers.map String.toList
  /-- One method is the one that is served. -/
  one : service.methods.count served = 1

theorem written_ofEntrypoint {entrypoint : EntrypointFile} {service : Service}
    (named : entrypoint.service = service.name) :
    IsWrittenFrom (ofEntrypoint entrypoint).content ((ofEntrypoint entrypoint).lines service) := by
  simp only [lines, ofEntrypoint, ← named]
  exact entrypoint.isWrittenFrom

end Program

section

variable {parameters : Parameters} {request : Request} {file : File} {service : Service}

/-- The program that serves a method of a service. -/
def programOf (parameters : Parameters) (request : Request) (file : File) (service : Service)
    (served : Method) : Program :=
  .ofEntrypoint (.ofTarget parameters request ⟨file, service, served⟩)

/-- The signature of a method in the programs of its service, whichever method they serve. -/
def signatureIn (parameters : Parameters) (request : Request) (file : File) (service : Service)
    (method : Method) : Signature :=
  let start := Resolver.start request file parameters.base parameters.genDir
  (signatures start service.name service.methods).2.signatureOf service.name method

/-- The program is what is written for a record that keeps the directories and finds the method. -/
theorem generate_programOf (toolchain : Toolchain) {record : Parameters}
    (base : record.base = parameters.base) (genDir : record.genDir = parameters.genDir)
    (methodsDir : record.methodsDir = parameters.methodsDir) {served : Method}
    (found : record.target request = .ok ⟨file, service, served⟩) :
    ((entrypointGenerator toolchain).generate record request).value =
      .ok [⟨goFileName, (programOf parameters request file service served).content⟩] := by
  have same : EntrypointFile.ofTarget record request ⟨file, service, served⟩ =
      EntrypointFile.ofTarget parameters request ⟨file, service, served⟩ := by
    rw [EntrypointFile.ofTarget, EntrypointFile.ofTarget, base, genDir, methodsDir]
  rw [entrypointGenerator_single found, same]
  simp only [programOf, Program.ofEntrypoint]

theorem stubs_programOf (parameters : Parameters) (request : Request) (file : File)
    (service : Service) (served : Method) :
    (programOf parameters request file service served).stubs =
      service.methods.map fun method =>
        (signatureIn parameters request file service method).stub (method.name = served.name) := by
  rw [programOf, Program.ofEntrypoint, EntrypointFile.stubs, EntrypointFile.ofTarget_signatures,
    List.map_map]
  exact List.map_congr_left fun method _ => EntrypointFile.stub_eq _ _

theorem headers_programOf (parameters : Parameters) (request : Request) (file : File)
    (service : Service) (served : Method) :
    (programOf parameters request file service served).headers =
      service.methods.map fun method =>
        (signatureIn parameters request file service method).serverHeader := by
  rw [Program.headers, stubs_programOf, List.filterMap_map, ← List.filterMap_eq_map]
  exact List.filterMap_congr fun method _ => Signature.head?_stub

theorem filter_lines_programOf (parameters : Parameters) (request : Request) (file : File)
    (service : Service) (served : Method) :
    let program := programOf parameters request file service served
    (program.lines service).filter (startsWith serverKey) = program.headers := by
  intro program
  have whole : (program.lines service).filter (startsWith serverKey) =
      program.stubs.flatMap (List.filter (startsWith serverKey)) := filter_programLines ..
  rw [whole, headers_programOf, stubs_programOf, List.flatMap_map, List.map_eq_flatMap]
  exact List.flatMap_congr fun method _ => Signature.filter_stub

theorem written_programOf (parameters : Parameters) (request : Request) (file : File)
    (service : Service) (served : Method) :
    let program := programOf parameters request file service served
    IsWrittenFrom program.content (program.lines service) := by
  exact Program.written_ofEntrypoint rfl

/-- A program that serves one of several methods of different names has a server method for each. -/
theorem serves_programOf (distinct : (service.methods.map Method.name).Nodup) {served : Method}
    (member : served ∈ service.methods) :
    (programOf parameters request file service served).Serves service served := by
  have written := written_programOf parameters request file service served
  have headers := filter_lines_programOf parameters request file service served
  refine ⟨written, ?_, headers, fun closed => ?_, List.count_eq_one_of_mem distinct.of_map member⟩
  · rw [stubs_programOf, List.forall₂_map_right_iff, List.forall₂_same]
    intro method inService
    refine ⟨_, rfl, rfl, rfl, Signature.head?_stub, ?_, ?_⟩
    · rintro rfl
      simp [Signature.stub]
    · intro other
      have otherName : method.name ≠ served.name := fun same =>
        other (List.inj_on_of_nodup_map distinct inService member same)
      simp only [Signature.stub, otherName, decide_false, Bool.false_eq_true, if_false, true_and]
      exact ⟨(Signature.serverMethod_ne_unimplementedMethod _).symm,
        Signature.answersUnimplemented _⟩
  · rw [written.startingWith_eq closed (by decide), headers]
    intro line member
    rw [headers, headers_programOf] at member
    have inLines : line ∈ (programOf parameters request file service served).lines service := by
      rw [← headers_programOf, ← headers] at member
      exact List.mem_of_mem_filter member
    obtain ⟨method, -, rfl⟩ := List.mem_map.1 member
    exact Signature.neat_serverHeader (closed _ inLines)

end

/-! ### Two programs -/

/-- What is said of two programs of a service that serve one method each. -/
structure SharesInterface (service : Service) (first second : Method) (one other : Program) :
    Prop where
  /-- Their server methods are started by the same lines, pair by pair. -/
  headers : one.headers = other.headers
  /-- The server methods of all methods that neither of them serves are the same. -/
  stubs : ∀ position : Nat, service.methods[position]? ≠ some first →
    service.methods[position]? ≠ some second → one.stubs[position]? = other.stubs[position]?
  /-- Their imports are the same up to the line for the implementation, the last one and the only one
  of its kind. -/
  imports : ∃ (shared : List String) (path path' : String),
    valuesUnder (aliasKey "impl") shared = [] ∧
      one.imports = shared ++ [importLine ⟨"impl", path⟩] ∧
      other.imports = shared ++ [importLine ⟨"impl", path'⟩]

/-- Any two programs of a service whose methods have different names implement the same interface:
each has a server method for every method, started by the same lines as in the other one, of which
it serves the one of its own method alone. They are what is written for the records that find the two
methods. -/
theorem entrypoints_share_interface (parameters : Parameters) (request : Request) (file : File)
    {service : Service} (distinct : (service.methods.map Method.name).Nodup)
    {first second : Method} (firstMember : first ∈ service.methods)
    (secondMember : second ∈ service.methods) :
    let one := programOf parameters request file service first
    let other := programOf parameters request file service second
    one.Serves service first ∧ other.Serves service second ∧
      SharesInterface service first second one other ∧
      ∀ (toolchain : Toolchain) (record : Parameters) (served : Method),
        record.base = parameters.base → record.genDir = parameters.genDir →
        record.methodsDir = parameters.methodsDir →
        record.target request = .ok ⟨file, service, served⟩ →
          ((entrypointGenerator toolchain).generate record request).value =
            .ok [⟨goFileName, (programOf parameters request file service served).content⟩] := by
  intro one other
  refine ⟨serves_programOf distinct firstMember, serves_programOf distinct secondMember, ?_, ?_⟩
  · constructor
    · rw [headers_programOf, headers_programOf]
    · intro position notFirst notSecond
      rw [stubs_programOf, stubs_programOf, List.getElem?_map, List.getElem?_map]
      cases there : service.methods[position]? with
      | none => rfl
      | some method =>
          have member := List.mem_of_getElem? there
          have away {served : Method} (inService : served ∈ service.methods)
              (elsewhere : service.methods[position]? ≠ some served) : method.name ≠ served.name :=
            fun same => elsewhere (List.inj_on_of_nodup_map distinct member inService same ▸ there)
          simp only [Option.map_some, away firstMember notFirst, away secondMember notSecond]
    · obtain ⟨-, -, numbered⟩ :=
        EntrypointFile.ofTarget_imports parameters request ⟨file, service, first⟩
      exact ⟨_, _, _, valuesUnder_sharedImports numbered, rfl, rfl⟩
  · intro toolchain record served base genDir methodsDir found
    exact generate_programOf toolchain base genDir methodsDir found

/-- A service with a method of each shape, whose types are in two packages. -/
def accountsService : Service :=
  .named "Accounts"
    [ .named "Get" ".acme.User" ".acme.User",
      (Method.named "Upload" ".audit.Entry" ".acme.User").streaming true false,
      (Method.named "Watch" ".acme.User" ".audit.Entry").streaming false true,
      (Method.named "Chat" ".audit.Entry" ".audit.Entry").streaming true true ]

/-- The file of the service. -/
def accountsFile : File :=
  ((File.named "acme/accounts.proto" "acme").withMessage (.named "User")).withService accountsService

/-- The programs of the first and of the last method of a service share its interface. -/
theorem entrypoints_share_interface_accounts :
    let request : Request :=
      { fileNames := ["acme/accounts.proto"]
        files := [(File.named "audit/audit.proto" "audit").withMessage (.named "Entry"),
          accountsFile] }
    let record : Parameters := { name := "entrypoint", service := "Accounts", method := "Get" }
    let first := accountsService.methods[0]
    let second := accountsService.methods[3]
    let one := programOf {} request accountsFile accountsService first
    let other := programOf {} request accountsFile accountsService second
    (accountsService.methods.map Method.name).Nodup ∧
      first ∈ accountsService.methods ∧ second ∈ accountsService.methods ∧
      one.Serves accountsService first ∧ other.Serves accountsService second ∧
      SharesInterface accountsService first second one other ∧
      record.target request = .ok ⟨accountsFile, accountsService, first⟩ ∧
      ((entrypointGenerator default).generate record request).value =
        .ok [⟨goFileName, one.content⟩] := by
  intro request record first second one other
  have distinct : (accountsService.methods.map Method.name).Nodup := by decide
  have firstMember : first ∈ accountsService.methods := by decide
  have secondMember : second ∈ accountsService.methods := by decide
  have found : record.target request = .ok ⟨accountsFile, accountsService, first⟩ := rfl
  obtain ⟨servesFirst, servesSecond, shares, generated⟩ :=
    entrypoints_share_interface {} request accountsFile distinct firstMember secondMember
  exact ⟨distinct, firstMember, secondMember, servesFirst, servesSecond, shares, found,
    generated default record first rfl rfl rfl found⟩

end MethodForge.Go
