/-
Module: MethodForge.Proofs.Go.Stubs
Purpose: The types that server methods write. Go code points to a message, so a type stands behind a
  star. A server method has the same header whether the method is served or not. The header names
  the types that are not streamed, as far as it goes by its arguments, and a server method that is
  served makes channels for those that are. So neither type of a method may be written in its server
  method, and which ones are is up to its shape and to whether it is served.
Main exports: pointees, headerTypes, channelTypes, writtenTypes, Signature.Starless,
  Signature.exists_pointee_of_written, Signature.pointee_stub
-/
import MethodForge.Go.EntrypointFile
import Mathlib.Data.List.Infix

namespace MethodForge.Go

open Schema (Shape)

/-! ### Pointers in a line -/

/-- What stands behind each star of a line. -/
def pointees : List Char → List (List Char)
  | [] => []
  | character :: rest => if character = '*' then rest :: pointees rest else pointees rest

theorem pointees_append (before rest : List Char) :
    pointees (before ++ rest) = (pointees before).map (· ++ rest) ++ pointees rest := by
  induction before with
  | nil => rfl
  | cons first before ih =>
      rw [List.cons_append, pointees, pointees]
      split
      · rw [ih, List.map_cons, List.cons_append]
      · exact ih

theorem pointees_of_starless {text : List Char} (starless : '*' ∉ text) : pointees text = [] := by
  induction text with
  | nil => rfl
  | cons first rest ih =>
      rw [List.mem_cons, not_or] at starless
      rw [pointees, if_neg (Ne.symm starless.1), ih starless.2]

theorem mem_pointees (before type after : String) :
    type.toList ++ after.toList ∈ pointees (before ++ "*" ++ type ++ after).toList := by
  have star : pointees "*".toList = [[]] := by decide
  simp only [String.toList_append, List.append_assoc, pointees_append, star, List.map_cons,
    List.map_nil, List.nil_append]
  exact List.mem_append_right _ List.mem_cons_self

/-- What stands behind each star of several lines. -/
def pointeesOf (lines : List String) : List (List Char) :=
  lines.flatMap fun line => pointees line.toList

theorem mem_pointeesOf {lines : List String} {pointee : List Char} :
    pointee ∈ pointeesOf lines ↔ ∃ line ∈ lines, pointee ∈ pointees line.toList :=
  List.mem_flatMap

theorem pointeesOf_nil : pointeesOf [] = [] := rfl

theorem pointeesOf_cons (line : String) (rest : List String) :
    pointeesOf (line :: rest) = pointees line.toList ++ pointeesOf rest :=
  List.flatMap_cons

theorem pointeesOf_append (before rest : List String) :
    pointeesOf (before ++ rest) = pointeesOf before ++ pointeesOf rest :=
  List.flatMap_append

theorem toString_eq (text : String) : toString text = text := rfl

/-! ### Types of a method -/

section

variable {α : Type}

/-- Those of the two types of a method that the header of its server method names. -/
def headerTypes (shape : Shape) (request response : α) : List α :=
  match shape with
  | .unary => [request, response]
  | .serverStreaming => [request]
  | .clientStreaming | .bidirectional => []

/-- Those of the two types of a method that its server method makes channels for. -/
def channelTypes (serves : Bool) (shape : Shape) (request response : α) : List α :=
  if serves then
    match shape with
    | .unary => []
    | .clientStreaming => [request]
    | .serverStreaming => [response]
    | .bidirectional => [request, response]
  else []

/-- Those of the two types of a method that its server method writes. -/
def writtenTypes (serves : Bool) (shape : Shape) (request response : α) : List α :=
  headerTypes shape request response ++ channelTypes serves shape request response

theorem mem_of_mem_writtenTypes {serves : Bool} {shape : Shape} {request response type : α}
    (written : type ∈ writtenTypes serves shape request response) : type ∈ [request, response] := by
  cases serves with
  | true => cases shape <;> simp_all [writtenTypes, headerTypes, channelTypes]
  | false => cases shape <;> simp_all [writtenTypes, headerTypes, channelTypes]

/-- Which types are written does not depend on how they are named. -/
theorem writtenTypes_map {β : Type} (name : α → β) (serves : Bool) (shape : Shape)
    (request response : α) :
    writtenTypes serves shape (name request) (name response) =
      (writtenTypes serves shape request response).map name := by
  cases serves with
  | true => cases shape <;> rfl
  | false => cases shape <;> rfl

end

namespace Signature

/-- The server method of a signature, which serves its method or not. -/
def stub (signature : Signature) (serves : Bool) : List String :=
  if serves then signature.serverMethod else signature.unimplementedMethod

/-- Whether no name that a signature is written from holds a star. -/
def Starless (signature : Signature) : Prop :=
  ∀ text ∈ [signature.service, signature.method, signature.request, signature.response],
    '*' ∉ text.toList

instance (signature : Signature) : Decidable signature.Starless :=
  List.decidableBAll (fun text : String => '*' ∉ text.toList) _

/-- The line that makes a channel. -/
def channelLine (name type : String) : String :=
  "\t" ++ name ++ " := make(chan *" ++ type ++ ")"

/-- How a stream stands among the arguments, to the end of the line. -/
def streamArgument (signature : Signature) : String :=
  "stream pb." ++ signature.service ++ "_" ++ signature.method ++ "Server) error \x7b"

/-- What follows the name in a header. -/
def arguments (signature : Signature) : String :=
  match signature.shape with
  | .unary =>
      "(ctx context.Context, req *" ++ signature.request ++ ") (*" ++ signature.response ++
        ", error) \x7b"
  | .serverStreaming => "(req *" ++ signature.request ++ ", " ++ signature.streamArgument
  | .clientStreaming | .bidirectional => "(" ++ signature.streamArgument

variable {signature : Signature} {serves : Bool}

/-! ### Headers -/

/-- The line that starts the server method, whether the method is served here or not. -/
def serverHeader (signature : Signature) : String :=
  "func (s *server) " ++ signature.method ++ signature.arguments

theorem serverHeader_eq (signature : Signature) :
    signature.serverHeader = "func (s *server) " ++ signature.method ++ signature.arguments := rfl

theorem head?_serverMethod (signature : Signature) :
    signature.serverMethod.head? = some signature.serverHeader := by
  obtain ⟨shape, service, method, request, response⟩ := signature
  rw [serverHeader_eq]
  cases shape with
  | unary => simp [serverMethod, arguments, toString_eq, ← String.toList_inj]
  | clientStreaming =>
      simp [serverMethod, arguments, streamArgument, streamType, toString_eq, ← String.toList_inj]
  | serverStreaming =>
      simp [serverMethod, arguments, streamArgument, streamType, toString_eq, ← String.toList_inj]
  | bidirectional =>
      simp [serverMethod, arguments, streamArgument, streamType, toString_eq, ← String.toList_inj]

theorem serverMethod_eq (signature : Signature) :
    signature.serverMethod = signature.serverHeader :: signature.serverMethod.tail :=
  (List.cons_head?_tail signature.head?_serverMethod).symm

/-- What a server method answers that is not served. -/
def unimplementedAnswer (signature : Signature) : String :=
  "\treturn " ++ (if signature.shape = .unary then "nil, " else "") ++
    "status.Error(codes.Unimplemented, \"" ++ signature.service ++ "." ++ signature.method ++
    " is served by a different entrypoint\")"

theorem unimplementedMethod_eq (signature : Signature) :
    signature.unimplementedMethod =
      [signature.serverHeader, signature.unimplementedAnswer, "\x7d"] := by
  obtain ⟨shape, service, method, request, response⟩ := signature
  rw [serverHeader_eq]
  cases shape with
  | unary =>
      simp [unimplementedMethod, unimplementedAnswer, unimplementedMessage, arguments,
        toString_eq, ← String.toList_inj]
  | clientStreaming =>
      simp [unimplementedMethod, unimplementedAnswer, unimplementedMessage, arguments,
        streamArgument, streamType, toString_eq, ← String.toList_inj]
  | serverStreaming =>
      simp [unimplementedMethod, unimplementedAnswer, unimplementedMessage, arguments,
        streamArgument, streamType, toString_eq, ← String.toList_inj]
  | bidirectional =>
      simp [unimplementedMethod, unimplementedAnswer, unimplementedMessage, arguments,
        streamArgument, streamType, toString_eq, ← String.toList_inj]

/-- Both server methods of a signature are started by the same line. -/
theorem head?_stub : (signature.stub serves).head? = some signature.serverHeader := by
  cases serves with
  | true => exact signature.head?_serverMethod
  | false => rw [stub, if_neg Bool.false_ne_true, unimplementedMethod_eq, List.head?_cons]

/-- A header points to the types that it names. -/
theorem exists_pointee_serverHeader {type : String}
    (named : type ∈ headerTypes signature.shape signature.request signature.response) :
    ∃ pointee ∈ pointees signature.serverHeader.toList, type.toList <+: pointee := by
  have points (before after : String)
      (text : signature.arguments = before ++ "*" ++ type ++ after) :
      ∃ pointee ∈ pointees signature.serverHeader.toList, type.toList <+: pointee := by
    have line : signature.serverHeader =
        "func (s *server) " ++ signature.method ++ before ++ "*" ++ type ++ after := by
      rw [serverHeader_eq, text]
      simp [← String.toList_inj]
    rw [line]
    exact ⟨_, mem_pointees _ type after, List.prefix_append _ _⟩
  cases shape : signature.shape with
  | unary =>
      simp only [shape, headerTypes, List.mem_cons, List.not_mem_nil, or_false] at named
      rcases named with rfl | rfl
      · apply points "(ctx context.Context, req " (") (*" ++ signature.response ++ ", error) \x7b")
        simp [arguments, shape, ← String.toList_inj]
      · apply points ("(ctx context.Context, req *" ++ signature.request ++ ") (") ", error) \x7b"
        simp [arguments, shape, ← String.toList_inj]
  | serverStreaming =>
      simp only [shape, headerTypes, List.mem_cons, List.not_mem_nil, or_false] at named
      subst named
      apply points "(req " (", " ++ signature.streamArgument)
      simp [arguments, shape, ← String.toList_inj]
  | clientStreaming => simp [shape, headerTypes] at named
  | bidirectional => simp [shape, headerTypes] at named

theorem Starless.streamArgument (starless : signature.Starless) :
    '*' ∉ signature.streamArgument.toList := by
  have service := starless signature.service (by simp)
  have method := starless signature.method (by simp)
  simp [Signature.streamArgument, service, method]

/-- What follows the name in a header points to the types that the header names, and to nothing
else. -/
theorem pointee_arguments (starless : signature.Starless) {pointee : List Char}
    (member : pointee ∈ pointees signature.arguments.toList) :
    ∃ type ∈ headerTypes signature.shape signature.request signature.response,
      type.toList <+: pointee := by
  have request := pointees_of_starless (starless signature.request (by simp))
  have response := pointees_of_starless (starless signature.response (by simp))
  have stream := pointees_of_starless starless.streamArgument
  cases shape : signature.shape with
  | unary =>
      have first : pointees "(ctx context.Context, req *".toList = [[]] := by decide
      have second : pointees ") (*".toList = [[]] := by decide
      have last : pointees ", error) \x7b".toList = [] := by decide
      simp only [arguments, shape, String.toList_append, pointees_append, first, second, last,
        request, response, List.map_cons, List.map_nil, List.append_assoc, List.nil_append,
        List.cons_append, List.append_nil, List.mem_cons, List.not_mem_nil, or_false] at member
      rcases member with rfl | rfl
      · exact ⟨signature.request, by simp [headerTypes], List.prefix_append _ _⟩
      · exact ⟨signature.response, by simp [headerTypes], List.prefix_append _ _⟩
  | serverStreaming =>
      have first : pointees "(req *".toList = [[]] := by decide
      have comma : pointees ", ".toList = [] := by decide
      simp only [arguments, shape, String.toList_append, pointees_append, first, comma, request,
        stream, List.map_cons, List.map_nil, List.append_assoc, List.nil_append, List.append_nil,
        List.mem_cons, List.not_mem_nil, or_false] at member
      exact ⟨signature.request, by simp [headerTypes], member ▸ List.prefix_append _ _⟩
  | clientStreaming => simp [arguments, shape, pointees, stream] at member
  | bidirectional => simp [arguments, shape, pointees, stream] at member

/-- A header points to the server and to the types that it names, and to nothing else. -/
theorem pointee_serverHeader (starless : signature.Starless) {pointee : List Char}
    (member : pointee ∈ pointees signature.serverHeader.toList) :
    "server) ".toList <+: pointee ∨
      ∃ type ∈ headerTypes signature.shape signature.request signature.response,
        type.toList <+: pointee := by
  have method := pointees_of_starless (starless signature.method (by simp))
  have receiver : pointees "func (s *server) ".toList = ["server) ".toList] := by decide
  rw [serverHeader_eq, String.toList_append, String.toList_append, pointees_append,
    pointees_append, receiver, method] at member
  rcases List.mem_append.1 member with before | inArguments
  · left
    simp only [List.map_cons, List.map_nil, List.append_nil, List.mem_singleton] at before
    rw [before, List.append_assoc]
    exact List.prefix_append _ _
  · exact Or.inr (pointee_arguments starless inArguments)

/-! ### Channels -/

theorem exists_pointee_channelLine (name type : String) :
    ∃ pointee ∈ pointees (channelLine name type).toList, type.toList <+: pointee := by
  have line : channelLine name type = "\t" ++ name ++ " := make(chan " ++ "*" ++ type ++ ")" := by
    simp [channelLine, ← String.toList_inj]
  rw [line]
  exact ⟨_, mem_pointees _ type ")", List.prefix_append _ _⟩

theorem pointees_channelLine (name : String) {type : String} (nameless : '*' ∉ name.toList)
    (starless : '*' ∉ type.toList) :
    pointees (channelLine name type).toList = [type.toList ++ ")".toList] := by
  have tab : pointees "\t".toList = [] := by decide
  have make : pointees " := make(chan *".toList = [[]] := by decide
  have bracket : pointees ")".toList = [] := by decide
  simp only [channelLine, String.toList_append, pointees_append, tab, make, bracket,
    pointees_of_starless nameless, pointees_of_starless starless, List.map_cons, List.map_nil,
    List.nil_append, List.append_nil]

/-! ### Server methods -/

theorem serverHeader_mem_stub : signature.serverHeader ∈ signature.stub serves :=
  List.mem_of_mem_head? head?_stub

theorem channelLine_input (type : String) :
    s!"\tinput := make(chan *{type})" = channelLine "input" type := by
  have text : s!"\tinput := make(chan *{type})" = "\tinput := make(chan *" ++ type ++ ")" := rfl
  simp [text, channelLine]

theorem channelLine_output (type : String) :
    s!"\toutput := make(chan *{type})" = channelLine "output" type := by
  have text : s!"\toutput := make(chan *{type})" = "\toutput := make(chan *" ++ type ++ ")" := rfl
  simp [text, channelLine]

/-- A server method that is served makes the channels that its shape asks for. -/
theorem exists_channelLine_mem_stub {type : String}
    (made : type ∈ channelTypes serves signature.shape signature.request signature.response) :
    ∃ name, channelLine name type ∈ signature.stub serves := by
  cases serves with
  | false => cases made
  | true =>
      cases shape : signature.shape with
      | unary => simp [channelTypes, shape] at made
      | clientStreaming =>
          have same : type = signature.request := by simpa [channelTypes, shape] using made
          exact ⟨"input", by simp [stub, serverMethod, shape, channelLine_input, same]⟩
      | serverStreaming =>
          have same : type = signature.response := by simpa [channelTypes, shape] using made
          exact ⟨"output", by
            simp [stub, serverMethod, shape, channelLine_output, same]⟩
      | bidirectional =>
          have same : type = signature.request ∨ type = signature.response := by
            simpa [channelTypes, shape] using made
          rcases same with rfl | rfl
          · exact ⟨"input", by simp [stub, serverMethod, shape, channelLine_input]⟩
          · exact ⟨"output", by simp [stub, serverMethod, shape, channelLine_output]⟩

/-! ### Lines that point to nothing -/

theorem pointeesOf_receiveLoop : pointeesOf receiveLoop = [] := by decide

theorem pointeesOf_sendLoop : pointeesOf sendLoop = [] := by decide

theorem pointeesOf_callWithInput : pointeesOf callWithInput = [] := by decide

/-- Beyond its header, a server method that is served points to what its channels carry, and to
nothing else. -/
theorem pointeesOf_tail_serverMethod (starless : signature.Starless) :
    pointeesOf signature.serverMethod.tail =
      (channelTypes true signature.shape signature.request signature.response).map
        fun type => type.toList ++ ")".toList := by
  have request := starless signature.request (by simp)
  have response := starless signature.response (by simp)
  have empty : pointees "".toList = [] := by decide
  have two : pointees "\terrCh := make(chan error, 2)".toList = [] := by decide
  have three : pointees "\terrCh := make(chan error, 3)".toList = [] := by decide
  have last : pointees "\treturn <-errCh".toList = [] := by decide
  have bracket : pointees "\x7d".toList = [] := by decide
  have withRequest : pointeesOf (callWithOutput "stream.Context(), req, output") = [] := by decide
  have withInput : pointeesOf (callWithOutput "stream.Context(), input, output") = [] := by decide
  have input := pointees_channelLine "input" (by decide) request
  have output := pointees_channelLine "output" (by decide) response
  cases shape : signature.shape with
  | unary =>
      have call : pointees (s!"\treturn {implementationAlias}.Impl(ctx, req)").toList = [] := by
        decide
      simp only [serverMethod, shape, channelTypes, List.tail_cons, pointeesOf_cons,
        pointeesOf_nil, call, bracket]
      rfl
  | clientStreaming =>
      simp only [serverMethod, shape, channelTypes, List.cons_append, List.tail_cons,
        channelLine_input, pointeesOf_append, pointeesOf_cons, pointeesOf_nil,
        pointeesOf_receiveLoop, pointeesOf_callWithInput, empty, two, last, bracket, input]
      rfl
  | serverStreaming =>
      simp only [serverMethod, shape, channelTypes, List.cons_append, List.tail_cons,
        channelLine_output, pointeesOf_append, pointeesOf_cons, pointeesOf_nil, pointeesOf_sendLoop,
        withRequest, empty, two, last, bracket, output]
      rfl
  | bidirectional =>
      simp only [serverMethod, shape, channelTypes, List.cons_append, List.tail_cons,
        channelLine_input, channelLine_output, pointeesOf_append, pointeesOf_cons, pointeesOf_nil,
        pointeesOf_receiveLoop, pointeesOf_sendLoop, withInput, empty, three, last, bracket, input,
        output]
      rfl

/-- A server method that is not served points to what its header points to. -/
theorem pointeesOf_unimplementedMethod (starless : signature.Starless) :
    pointeesOf signature.unimplementedMethod = pointees signature.serverHeader.toList := by
  have service := starless signature.service (by simp)
  have method := starless signature.method (by simp)
  have bracket : pointees "\x7d".toList = [] := by decide
  have response : '*' ∉ (if signature.shape = .unary then "nil, " else "").toList := by
    split <;> decide
  rw [unimplementedMethod_eq, pointeesOf_cons, pointeesOf_cons, pointeesOf_cons, bracket,
    pointeesOf_nil, List.append_nil, List.append_nil, List.append_right_eq_self]
  apply pointees_of_starless
  simp [unimplementedAnswer, response, service, method]

/-! ### Server methods -/

/-- A server method points to each of the types that it writes. -/
theorem exists_pointee_of_written {type : String}
    (written : type ∈
      writtenTypes serves signature.shape signature.request signature.response) :
    ∃ pointee ∈ pointeesOf (signature.stub serves), type.toList <+: pointee := by
  rcases List.mem_append.1 written with named | made
  · obtain ⟨pointee, member, leads⟩ := exists_pointee_serverHeader named
    exact ⟨pointee, mem_pointeesOf.2 ⟨_, serverHeader_mem_stub, member⟩, leads⟩
  · obtain ⟨name, line⟩ := exists_channelLine_mem_stub made
    obtain ⟨pointee, member, leads⟩ := exists_pointee_channelLine name type
    exact ⟨pointee, mem_pointeesOf.2 ⟨_, line, member⟩, leads⟩

/-- A server method points to the server and to the types that it writes, and to nothing else. -/
theorem pointee_stub (starless : signature.Starless) {pointee : List Char}
    (member : pointee ∈ pointeesOf (signature.stub serves)) :
    "server) ".toList <+: pointee ∨
      ∃ type ∈ writtenTypes serves signature.shape signature.request signature.response,
        type.toList <+: pointee := by
  have inHeader (header : pointee ∈ pointees signature.serverHeader.toList) :
      "server) ".toList <+: pointee ∨
        ∃ type ∈ writtenTypes serves signature.shape signature.request signature.response,
          type.toList <+: pointee := by
    rcases pointee_serverHeader starless header with receiver | ⟨type, named, leads⟩
    · exact Or.inl receiver
    · exact Or.inr ⟨type, List.mem_append_left _ named, leads⟩
  cases serves with
  | true =>
      rw [stub, if_pos rfl, serverMethod_eq, pointeesOf_cons, pointeesOf_tail_serverMethod starless,
        List.mem_append] at member
      rcases member with header | body
      · exact inHeader header
      · obtain ⟨type, made, rfl⟩ := List.mem_map.1 body
        exact Or.inr ⟨type, List.mem_append_right _ made, List.prefix_append _ _⟩
  | false =>
      rw [stub, if_neg Bool.false_ne_true, pointeesOf_unimplementedMethod starless] at member
      exact inHeader member

end Signature

end MethodForge.Go
