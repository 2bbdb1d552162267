/-
Module: MethodForge.Go.EntrypointFile
Purpose: The Go program that serves one method. It registers the whole service, because the server
  has to have its interface, but only the one method is handed on to its implementation; the others
  answer that they are served elsewhere. Types are resolved for all methods in their order, so that
  every program of a service names them alike.
Main exports: signatures, EntrypointFile, EntrypointFile.ofTarget, EntrypointFile.lines
-/
import MethodForge.Go.ScaffoldFile

namespace MethodForge.Go

open Schema (Method Request Target)

/-- The signatures of the methods of a service, resolved one after the other. -/
def signatures (resolver : Resolver) (service : String) : List Method → List Signature × Resolver
  | [] => ([], resolver)
  | method :: rest =>
      let (first, resolver) := signature resolver service method
      let (others, resolver) := signatures resolver service rest
      (first :: others, resolver)

/-- What the program is written from. -/
structure EntrypointFile where
  service : String
  /-- The name of the method that is served. -/
  served : String
  /-- The import path of the home package. -/
  home : String
  /-- The other packages that the types of the service are in. -/
  otherImports : List GoImport
  /-- The import path of the implementation. -/
  implementation : String
  /-- All methods of the service. -/
  signatures : List Signature
deriving Repr, DecidableEq

namespace EntrypointFile

/-- The program that serves a method. -/
def ofTarget (parameters : Parameters) (request : Request) (target : Target) : EntrypointFile :=
  let start := Resolver.start request target.file parameters.base parameters.genDir
  let (signatures, resolver) := Go.signatures start target.serviceName target.service.methods
  { service := target.serviceName
    served := target.methodName
    home := resolver.home
    otherImports := resolver.otherImports
    implementation :=
      Naming.implementationImportPath parameters.base parameters.methodsDir target.serviceName
        target.methodName
    signatures }

/-- The server method of a signature: served here if it has the name of the method that is. -/
def stub (file : EntrypointFile) (signature : Signature) : List String :=
  if signature.method = file.served then signature.serverMethod
  else signature.unimplementedMethod

/-- The lines of the server methods, with an empty line between them. -/
def stubLines (file : EntrypointFile) : List String :=
  [""].intercalate (file.signatures.map file.stub)

/-- The lines of the imports. -/
def importLines (file : EntrypointFile) : List String :=
  [ "import (",
    "\t\"context\"",
    "\t\"errors\"",
    "\t\"fmt\"",
    "\t\"io\"",
    "\t\"log\"",
    "\t\"net\"",
    "\t\"os\"",
    "\t\"time\"",
    "",
    "\t\"google.golang.org/grpc\"",
    "\t\"google.golang.org/grpc/codes\"",
    "\thealthpb \"google.golang.org/grpc/health/grpc_health_v1\"",
    "\t\"google.golang.org/grpc/status\"",
    "" ] ++
    [GoImport.line ⟨homeAlias, file.home⟩] ++
    file.otherImports.map GoImport.line ++
    [ GoImport.line ⟨Signature.implementationAlias, file.implementation⟩,
      ")" ]

/-- The part of the program that does not depend on the method: it listens, answers probes, and
keeps the imports that no method may have used. -/
def mainLines (service : String) : List String :=
  [ "func main() \x7b",
    "\tif len(os.Args) > 1 && os.Args[1] == \"probe\" \x7b",
    "\t\tprobe()",
    "\t\treturn",
    "\t\x7d",
    "\tlis, err := net.Listen(\"tcp\", fmt.Sprintf(\":%s\", os.Getenv(\"PORT\")))",
    "\tif err != nil \x7b",
    "\t\tlog.Fatalf(\"failed to listen: %v\", err)",
    "\t\x7d",
    "",
    "\t// Serves h2c; TLS terminates at the ingress.",
    "\tgrpcServer := grpc.NewServer()",
    "",
    s!"\tpb.Register{service}Server(grpcServer, &server\x7b\x7d)",
    "\thealthpb.RegisterHealthServer(grpcServer, &health\x7b\x7d)",
    "",
    "\tif err := grpcServer.Serve(lis); err != nil \x7b",
    "\t\tlog.Fatalf(\"failed to serve: %v\", err)",
    "\t\x7d",
    "\x7d",
    "",
    "func probe() \x7b",
    "\tctx, cancel := context.WithTimeout(context.Background(), 1*time.Second)",
    "\tdefer cancel()",
    "\tconn, err := grpc.DialContext(ctx, fmt.Sprintf(\"localhost:%s\", os.Getenv(\"PORT\")), grpc.WithInsecure())",
    "\tif err != nil \x7b",
    "\t\tlog.Fatalf(\"Error connecting: %v\", err)",
    "\t\x7d",
    s!"\tresp, err := healthpb.NewHealthClient(conn).Check(ctx, &healthpb.HealthCheckRequest\x7bService: \"{service}\"\x7d)",
    "\tif err != nil \x7b",
    "\t\tlog.Fatalf(\"Error health checking: %v\", err)",
    "\t\x7d",
    "\tlog.Printf(\"Health check: %#v\", resp)",
    "\x7d",
    "",
    "type health struct\x7b\x7d",
    "",
    "func (h *health) Check(ctx context.Context, req *healthpb.HealthCheckRequest) (*healthpb.HealthCheckResponse, error) \x7b",
    "\treturn &healthpb.HealthCheckResponse\x7bStatus: healthpb.HealthCheckResponse_SERVING\x7d, nil",
    "\x7d",
    "",
    "func (h *health) Watch(*healthpb.HealthCheckRequest, healthpb.Health_WatchServer) error \x7b",
    "\treturn status.Error(codes.Unimplemented, \"korpc does not implement Watch\")",
    "\x7d",
    "",
    "var _ = errors.New(\"keep errors imported\")",
    "var _ = io.EOF" ]

/-- The lines of the program. -/
def lines (file : EntrypointFile) : List String :=
  [ "package main",
    "" ] ++
    file.importLines ++
    [ "",
      "type server struct\x7b\x7d",
      "" ] ++
    file.stubLines ++
    [""] ++
    mainLines file.service

/-- The text of the program. -/
def text (file : EntrypointFile) : String :=
  Text.unlines file.lines

end EntrypointFile

end MethodForge.Go
