/-
Module: MethodForge.Schema.Basic
Purpose: What a run of the generators is asked to do. A request names the files to generate for and
  holds every file that was parsed: its messages, its services with their methods, and the options
  on them. A part that may be missing is kept apart from one that is there and empty, because both
  are written differently; the readings without a question mark take a missing part as empty.
Main exports: Request, File, Message, Service, Method, DeployOptions, Request.generatedFiles,
  File.goImportPath?
-/
import MethodForge.SortedMap

namespace MethodForge.Schema

/-- A variable in the environment of a container. -/
structure EnvironmentVariable where
  name : String := ""
  value : String := ""
deriving Repr, DecidableEq, Inhabited

/-- Quantities of what a container uses, under the name of the resource. -/
structure Resources where
  /-- The most that it may use. -/
  limits : SortedMap String := .empty
  /-- What it asks to have set aside. -/
  requests : SortedMap String := .empty
deriving Repr, DecidableEq, Inhabited

/-- How a method is to be deployed. -/
structure DeployOptions where
  /-- The service account to run as. -/
  serviceAccount : String := ""
  /-- How many requests one container serves at a time; zero sets no limit. -/
  containerConcurrency : Int64 := 0
  /-- How long a request may take; zero leaves it to the platform. -/
  timeoutSeconds : Int64 := 0
  /-- The environment of the container. -/
  env : List EnvironmentVariable := []
  /-- What the container uses. -/
  resources? : Option Resources := none
deriving Repr, DecidableEq, Inhabited

/-- The options of a method. -/
structure MethodOptions where
  deploy? : Option DeployOptions := none
deriving Repr, DecidableEq, Inhabited

/-- A method of a service. -/
structure Method where
  name? : Option String := none
  /-- The full name of the request's message. -/
  inputType? : Option String := none
  /-- The full name of the response's message. -/
  outputType? : Option String := none
  options? : Option MethodOptions := none
  /-- Whether the client sends a stream. -/
  clientStreaming? : Option Bool := none
  /-- Whether the server sends a stream. -/
  serverStreaming? : Option Bool := none
deriving Repr, DecidableEq, Inhabited

/-- A service and its methods in their order. -/
structure Service where
  name? : Option String := none
  methods : List Method := []
deriving Repr, DecidableEq, Inhabited

/-- A message and the messages declared inside it. -/
structure Message where
  name? : Option String := none
  nested : List Message := []
deriving Repr, Inhabited

/-- The options of a file. -/
structure FileOptions where
  /-- The Go package of the file: an import path, which a semicolon and a name may follow. -/
  goPackage? : Option String := none
deriving Repr, DecidableEq, Inhabited

/-- A parsed file. -/
structure File where
  /-- The path of the file from the include root. -/
  name? : Option String := none
  package? : Option String := none
  messages : List Message := []
  services : List Service := []
  options? : Option FileOptions := none
deriving Repr, Inhabited

/-- What a run is asked to do. -/
structure Request where
  /-- The names of the files to generate for. -/
  fileNames : List String := []
  /-- The settings of the run, as text. -/
  parameter? : Option String := none
  /-- Every parsed file; a file comes after those that it depends on. -/
  files : List File := []
deriving Repr, Inhabited

namespace Method

/-- The name, empty when it is missing. -/
def name (method : Method) : String :=
  method.name?.getD ""

/-- The full name of the request's message, empty when it is missing. -/
def inputType (method : Method) : String :=
  method.inputType?.getD ""

/-- The full name of the response's message, empty when it is missing. -/
def outputType (method : Method) : String :=
  method.outputType?.getD ""

/-- Whether the client sends a stream; it does not when nothing is said. -/
def clientStreaming (method : Method) : Bool :=
  method.clientStreaming?.getD false

/-- Whether the server sends a stream; it does not when nothing is said. -/
def serverStreaming (method : Method) : Bool :=
  method.serverStreaming?.getD false

/-- How the method is to be deployed, if it says so. -/
def deployOptions? (method : Method) : Option DeployOptions :=
  method.options?.bind (·.deploy?)

/-- A method of the given name and types that says nothing about streams. -/
def named (name inputType outputType : String) : Method :=
  { name? := some name, inputType? := some inputType, outputType? := some outputType }

/-- The method with its streams set. -/
def streaming (method : Method) (client server : Bool) : Method :=
  { method with clientStreaming? := some client, serverStreaming? := some server }

/-- The method with a deployment. -/
def withDeployOptions (method : Method) (deploy : DeployOptions) : Method :=
  { method with options? := some { deploy? := some deploy } }

end Method

namespace Service

/-- The name, empty when it is missing. -/
def name (service : Service) : String :=
  service.name?.getD ""

/-- A service of the given name with the given methods. -/
def named (name : String) (methods : List Method) : Service :=
  { name? := some name, methods }

end Service

namespace Message

/-- The name, empty when it is missing. -/
def name (message : Message) : String :=
  message.name?.getD ""

/-- A message of the given name with nothing inside. -/
def named (name : String) : Message :=
  { name? := some name }

/-- The message with one more message inside. -/
def withNested (message inner : Message) : Message :=
  { message with nested := message.nested ++ [inner] }

end Message

namespace File

/-- The name, empty when it is missing. -/
def name (file : File) : String :=
  file.name?.getD ""

/-- The package, empty when it is missing. -/
def package (file : File) : String :=
  file.package?.getD ""

/-- A file of the given name and package that declares nothing. -/
def named (name package : String) : File :=
  { name? := some name, package? := some package }

/-- The file with its Go package set. -/
def withGoPackage (file : File) (goPackage : String) : File :=
  { file with options? := some { goPackage? := some goPackage } }

/-- The file with one more message. -/
def withMessage (file : File) (message : Message) : File :=
  { file with messages := file.messages ++ [message] }

/-- The file with one more service. -/
def withService (file : File) (service : Service) : File :=
  { file with services := file.services ++ [service] }

/-- The import path of the file's Go package: what comes before a semicolon, unless it is empty. -/
def goImportPath? (file : File) : Option String :=
  match file.options?.bind (·.goPackage?) with
  | none => none
  | some goPackage =>
      let path := goPackage.toList.takeWhile (· != ';')
      if path.isEmpty then none else some (String.ofList path)

end File

namespace Request

/-- The settings of the run as text, empty when they are missing. -/
def parameter (request : Request) : String :=
  request.parameter?.getD ""

/-- Whether a file is one of those to generate for. -/
def isGenerated (request : Request) (file : File) : Bool :=
  request.fileNames.contains file.name

/-- The files to generate for, in the order in which they were parsed. -/
def generatedFiles (request : Request) : List File :=
  request.files.filter request.isGenerated

end Request

end MethodForge.Schema
