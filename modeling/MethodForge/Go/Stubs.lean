/-
Module: MethodForge.Go.Stubs
Purpose: The Go functions of a method, line by line, in a form for each shape. The implementation is
  the function that a user fills in: a stream of requests comes in through a channel and a stream of
  responses leaves through one. The server method hands a call on to it, and moves what comes and
  goes between the channels and the stream of the call. A method that is served elsewhere answers
  that it is not implemented here.
Main exports: Signature, implementation, serverMethod, unimplementedMethod
-/
import MethodForge.Schema.Target

namespace MethodForge.Go

open Schema (Shape)

/-- What the functions of a method are written from. -/
structure Signature where
  shape : Shape
  service : String
  method : String
  /-- The Go type of a request. -/
  request : String
  /-- The Go type of a response. -/
  response : String
deriving Repr, DecidableEq, Inhabited

namespace Signature

/-- The alias of the package of the implementation. -/
def implementationAlias : String := "impl"

/-- What an implementation says that nobody has filled in. -/
def todoMessage (signature : Signature) : String :=
  s!"You need to implement {signature.service}.{signature.method}!!!"

/-- What a server says that does not serve the method. -/
def unimplementedMessage (signature : Signature) : String :=
  s!"{signature.service}.{signature.method} is served by a different entrypoint"

/-- The Go type of the stream of a call. -/
def streamType (signature : Signature) : String :=
  s!"pb.{signature.service}_{signature.method}Server"

/-- The first line of the implementation. -/
def implementationHeader (signature : Signature) : String :=
  let { request, response, .. } := signature
  match signature.shape with
  | .unary =>
      s!"func Impl(ctx context.Context, req *{request}) (*{response}, error) \x7b"
  | .clientStreaming =>
      s!"func Impl(ctx context.Context, input <-chan *{request}) (*{response}, error) \x7b"
  | .serverStreaming =>
      s!"func Impl(ctx context.Context, req *{request}, output chan<- *{response}) error \x7b"
  | .bidirectional =>
      s!"func Impl(ctx context.Context, input <-chan *{request}, output chan<- *{response}) error \x7b"

/-- What comes before the error in a return: a method with one response returns it first. -/
def noResponse : Shape → String
  | .unary | .clientStreaming => "nil, "
  | .serverStreaming | .bidirectional => ""

/-- The implementation to be filled in. -/
def implementation (signature : Signature) : List String :=
  let response := noResponse signature.shape
  let message := signature.todoMessage
  [ signature.implementationHeader,
    s!"\treturn {response}errors.New(`{message}`)",
    "\x7d" ]

/-- Moves requests from the stream into the channel `input` until the client ends its side. -/
def receiveLoop : List String :=
  [ "\tgo func() \x7b",
    "\t\tdefer close(input)",
    "\t\tfor \x7b",
    "\t\t\treq, err := stream.Recv()",
    "\t\t\tif err == io.EOF \x7b",
    "\t\t\t\treturn",
    "\t\t\t\x7d",
    "\t\t\tif err != nil \x7b",
    "\t\t\t\terrCh <- err",
    "\t\t\t\treturn",
    "\t\t\t\x7d",
    "\t\t\tselect \x7b",
    "\t\t\tcase input <- req:",
    "\t\t\tcase <-stream.Context().Done():",
    "\t\t\t\treturn",
    "\t\t\t\x7d",
    "\t\t\x7d",
    "\t\x7d()" ]

/-- Moves responses from the channel `output` into the stream until the channel is closed. -/
def sendLoop : List String :=
  [ "\tgo func() \x7b",
    "\t\tfor resp := range output \x7b",
    "\t\t\tif err := stream.Send(resp); err != nil \x7b",
    "\t\t\t\terrCh <- err",
    "\t\t\t\tfor range output \x7b",
    "\t\t\t\t\x7d",
    "\t\t\t\treturn",
    "\t\t\t\x7d",
    "\t\t\x7d",
    "\t\terrCh <- nil",
    "\t\x7d()" ]

/-- Runs an implementation that writes into the channel `output`. -/
def callWithOutput (arguments : String) : List String :=
  [ "\tgo func() \x7b",
    "\t\tdefer close(output)",
    s!"\t\tif err := {implementationAlias}.Impl({arguments}); err != nil \x7b",
    "\t\t\terrCh <- err",
    "\t\t\x7d",
    "\t\x7d()" ]

/-- Runs an implementation that reads from the channel `input` and returns one response. -/
def callWithInput : List String :=
  [ "\tgo func() \x7b",
    s!"\t\tresp, err := {implementationAlias}.Impl(stream.Context(), input)",
    "\t\tif err != nil \x7b",
    "\t\t\terrCh <- err",
    "\t\t\treturn",
    "\t\t\x7d",
    "\t\terrCh <- stream.SendAndClose(resp)",
    "\t\x7d()" ]

/-- The server method that serves the method. -/
def serverMethod (signature : Signature) : List String :=
  let { method, request, response, .. } := signature
  let stream := signature.streamType
  match signature.shape with
  | .unary =>
      [ s!"func (s *server) {method}(ctx context.Context, req *{request}) (*{response}, error) \x7b",
        s!"\treturn {implementationAlias}.Impl(ctx, req)",
        "\x7d" ]
  | .clientStreaming =>
      [ s!"func (s *server) {method}(stream {stream}) error \x7b",
        s!"\tinput := make(chan *{request})",
        "\terrCh := make(chan error, 2)",
        "" ] ++
        receiveLoop ++ [""] ++
        callWithInput ++
        [ "",
          "\treturn <-errCh",
          "\x7d" ]
  | .serverStreaming =>
      [ s!"func (s *server) {method}(req *{request}, stream {stream}) error \x7b",
        s!"\toutput := make(chan *{response})",
        "\terrCh := make(chan error, 2)",
        "" ] ++
        callWithOutput "stream.Context(), req, output" ++ [""] ++
        sendLoop ++
        [ "",
          "\treturn <-errCh",
          "\x7d" ]
  | .bidirectional =>
      [ s!"func (s *server) {method}(stream {stream}) error \x7b",
        s!"\tinput := make(chan *{request})",
        s!"\toutput := make(chan *{response})",
        "\terrCh := make(chan error, 3)",
        "" ] ++
        receiveLoop ++ [""] ++
        callWithOutput "stream.Context(), input, output" ++ [""] ++
        sendLoop ++
        [ "",
          "\treturn <-errCh",
          "\x7d" ]

/-- The server method that does not serve the method. Every method has to be there, for the server
to have the interface of the service. -/
def unimplementedMethod (signature : Signature) : List String :=
  let { method, request, response, .. } := signature
  let stream := signature.streamType
  let message := signature.unimplementedMessage
  match signature.shape with
  | .unary =>
      [ s!"func (s *server) {method}(ctx context.Context, req *{request}) (*{response}, error) \x7b",
        s!"\treturn nil, status.Error(codes.Unimplemented, \"{message}\")",
        "\x7d" ]
  | .serverStreaming =>
      [ s!"func (s *server) {method}(req *{request}, stream {stream}) error \x7b",
        s!"\treturn status.Error(codes.Unimplemented, \"{message}\")",
        "\x7d" ]
  | .clientStreaming | .bidirectional =>
      [ s!"func (s *server) {method}(stream {stream}) error \x7b",
        s!"\treturn status.Error(codes.Unimplemented, \"{message}\")",
        "\x7d" ]

end Signature

end MethodForge.Go
