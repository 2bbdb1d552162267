/-
Module: MethodForge.Schema.Codec
Purpose: Requests on the wire. A step for each kind of part merges one of its fields, and passes over
  the fields that it does not know; a part that comes twice is merged, a list grows, and an entry of
  a map replaces the one before it. Writing goes through the fields in the order of their numbers and
  leaves out what is missing.
Main exports: Request.decode, Request.encode
-/
import MethodForge.Schema.Basic
import MethodForge.Wire.Field

namespace MethodForge.Schema

open Wire
open Text (Bytes)

/-- The number of the deployment among the options of a method. -/
def deployOptionsTag : Nat := 50501

/-- Merges a field of a variable. -/
def EnvironmentVariable.step (budget : Nat) : Step EnvironmentVariable := fun key value bytes =>
  match key.tag with
  | 1 => within "EnvVar" "name"
      (mapValue ({ value with name := · }) (readText key.wireType bytes))
  | 2 => within "EnvVar" "value"
      (mapValue ({ value with value := · }) (readText key.wireType bytes))
  | _ => unknown budget key value bytes

/-- Merges a field of an entry of a map. -/
def entryStep (budget : Nat) : Step (String × String) := fun key entry bytes =>
  match key.tag with
  | 1 => mapValue (·, entry.2) (readText key.wireType bytes)
  | 2 => mapValue (entry.1, ·) (readText key.wireType bytes)
  | _ => unknown budget key entry bytes

/-- Merges an entry into a map. A part of the entry that is missing is empty. -/
def readEntry (budget : Nat) (map : SortedMap String) (bytes : Bytes) :
    Decoded (SortedMap String × Bytes) :=
  mapValue (fun entry : String × String => map.insert entry.1 entry.2)
    (delimited (spend entryStep budget) ("", "") bytes)

/-- Merges a field of the quantities. -/
def Resources.step (budget : Nat) : Step Resources := fun key value bytes =>
  match key.tag with
  | 1 => within "ResourceRequirements" "limits"
      (mapValue ({ value with limits := · }) (readEntry budget value.limits bytes))
  | 2 => within "ResourceRequirements" "requests"
      (mapValue ({ value with requests := · }) (readEntry budget value.requests bytes))
  | _ => unknown budget key value bytes

/-- Merges a field of a deployment. -/
def DeployOptions.step (budget : Nat) : Step DeployOptions := fun key value bytes =>
  match key.tag with
  | 1 => within "DeployOptions" "service_account"
      (mapValue ({ value with serviceAccount := · }) (readText key.wireType bytes))
  | 2 => within "DeployOptions" "container_concurrency"
      (mapValue ({ value with containerConcurrency := · }) (readInt64 key.wireType bytes))
  | 3 => within "DeployOptions" "timeout_seconds"
      (mapValue ({ value with timeoutSeconds := · }) (readInt64 key.wireType bytes))
  | 4 => within "DeployOptions" "env"
      (mapValue (fun envVariable => { value with env := value.env ++ [envVariable] })
        (submessage (spend EnvironmentVariable.step budget) key.wireType {} bytes))
  | 5 => within "DeployOptions" "resources"
      (mapValue ({ value with resources? := some · })
        (submessage (spend Resources.step budget) key.wireType (value.resources?.getD {}) bytes))
  | _ => unknown budget key value bytes

/-- Merges a field of the options of a method. -/
def MethodOptions.step (budget : Nat) : Step MethodOptions := fun key value bytes =>
  if key.tag = deployOptionsTag then
    within "MethodOptions" "deploy"
      (mapValue ({ value with deploy? := some · })
        (submessage (spend DeployOptions.step budget) key.wireType (value.deploy?.getD {}) bytes))
  else unknown budget key value bytes

/-- Merges a field of a method. -/
def Method.step (budget : Nat) : Step Method := fun key value bytes =>
  match key.tag with
  | 1 => within "MethodDescriptor" "name"
      (mapValue ({ value with name? := some · }) (readText key.wireType bytes))
  | 2 => within "MethodDescriptor" "input_type"
      (mapValue ({ value with inputType? := some · }) (readText key.wireType bytes))
  | 3 => within "MethodDescriptor" "output_type"
      (mapValue ({ value with outputType? := some · }) (readText key.wireType bytes))
  | 4 => within "MethodDescriptor" "options"
      (mapValue ({ value with options? := some · })
        (submessage (spend MethodOptions.step budget) key.wireType (value.options?.getD {}) bytes))
  | 5 => within "MethodDescriptor" "client_streaming"
      (mapValue ({ value with clientStreaming? := some · }) (readBool key.wireType bytes))
  | 6 => within "MethodDescriptor" "server_streaming"
      (mapValue ({ value with serverStreaming? := some · }) (readBool key.wireType bytes))
  | _ => unknown budget key value bytes

/-- Merges a field of a service. -/
def Service.step (budget : Nat) : Step Service := fun key value bytes =>
  match key.tag with
  | 1 => within "ServiceDescriptor" "name"
      (mapValue ({ value with name? := some · }) (readText key.wireType bytes))
  | 2 => within "ServiceDescriptor" "method"
      (mapValue (fun method => { value with methods := value.methods ++ [method] })
        (submessage (spend Method.step budget) key.wireType {} bytes))
  | _ => unknown budget key value bytes

/-- Merges a field of a message; `inner` merges a field of a message inside it. -/
def Message.stepWith (inner : Option (Step Message)) (budget : Nat) : Step Message :=
  fun key value bytes =>
    match key.tag with
    | 1 => within "MessageDescriptor" "name"
        (mapValue ({ value with name? := some · }) (readText key.wireType bytes))
    | 3 => within "MessageDescriptor" "nested_type"
        (mapValue (fun message => { value with nested := value.nested ++ [message] })
          (submessage inner key.wireType {} bytes))
    | _ => unknown budget key value bytes

/-- Merges a field of a message. -/
def Message.step : Nat → Step Message
  | 0 => Message.stepWith none 0
  | budget + 1 => Message.stepWith (some (Message.step budget)) (budget + 1)

/-- Merges a field of the options of a file. -/
def FileOptions.step (budget : Nat) : Step FileOptions := fun key value bytes =>
  match key.tag with
  | 11 => within "FileOptions" "go_package"
      (mapValue ({ value with goPackage? := some · }) (readText key.wireType bytes))
  | _ => unknown budget key value bytes

/-- Merges a field of a file. -/
def File.step (budget : Nat) : Step File := fun key value bytes =>
  match key.tag with
  | 1 => within "FileDescriptor" "name"
      (mapValue ({ value with name? := some · }) (readText key.wireType bytes))
  | 2 => within "FileDescriptor" "package"
      (mapValue ({ value with package? := some · }) (readText key.wireType bytes))
  | 4 => within "FileDescriptor" "message_type"
      (mapValue (fun message => { value with messages := value.messages ++ [message] })
        (submessage (spend Message.step budget) key.wireType {} bytes))
  | 6 => within "FileDescriptor" "service"
      (mapValue (fun service => { value with services := value.services ++ [service] })
        (submessage (spend Service.step budget) key.wireType {} bytes))
  | 8 => within "FileDescriptor" "options"
      (mapValue ({ value with options? := some · })
        (submessage (spend FileOptions.step budget) key.wireType (value.options?.getD {}) bytes))
  | _ => unknown budget key value bytes

/-- Merges a field of a request. -/
def Request.step (budget : Nat) : Step Request := fun key value bytes =>
  match key.tag with
  | 1 => within "GenerationRequest" "file_to_generate"
      (mapValue (fun name => { value with fileNames := value.fileNames ++ [name] })
        (readText key.wireType bytes))
  | 2 => within "GenerationRequest" "parameter"
      (mapValue ({ value with parameter? := some · }) (readText key.wireType bytes))
  | 15 => within "GenerationRequest" "proto_file"
      (mapValue (fun file => { value with files := value.files ++ [file] })
        (submessage (spend File.step budget) key.wireType {} bytes))
  | _ => unknown budget key value bytes

/-- Reads a request. -/
def Request.decode (bytes : Bytes) : Except DecodeError Request :=
  decodeMessage Request.step {} bytes

/-- A field for each element of a list. -/
def writeEach {α : Type} (write : α → Bytes) (elements : List α) : Bytes :=
  elements.flatMap write

/-- A field that holds a message, if there is one. -/
def writeMessage? {α : Type} (tag : Nat) (write : α → Bytes) : Option α → Bytes
  | some message => writeBytes tag (write message)
  | none => []

/-- The fields of a variable. -/
def EnvironmentVariable.encode (envVariable : EnvironmentVariable) : Bytes :=
  writeTextNonempty 1 envVariable.name ++ writeTextNonempty 2 envVariable.value

/-- A field for each entry of a map. -/
def writeMap (tag : Nat) (map : SortedMap String) : Bytes :=
  writeEach
    (fun entry => writeBytes tag (writeTextNonempty 1 entry.1 ++ writeTextNonempty 2 entry.2))
    map.entries

/-- The fields of the quantities. -/
def Resources.encode (resources : Resources) : Bytes :=
  writeMap 1 resources.limits ++ writeMap 2 resources.requests

/-- The fields of a deployment. -/
def DeployOptions.encode (deploy : DeployOptions) : Bytes :=
  writeTextNonempty 1 deploy.serviceAccount ++
    writeInt64Nonzero 2 deploy.containerConcurrency ++
    writeInt64Nonzero 3 deploy.timeoutSeconds ++
    writeEach (fun envVariable => writeBytes 4 envVariable.encode) deploy.env ++
    writeMessage? 5 Resources.encode deploy.resources?

/-- The fields of the options of a method. -/
def MethodOptions.encode (options : MethodOptions) : Bytes :=
  writeMessage? deployOptionsTag DeployOptions.encode options.deploy?

/-- The fields of a method. -/
def Method.encode (method : Method) : Bytes :=
  writeText? 1 method.name? ++ writeText? 2 method.inputType? ++ writeText? 3 method.outputType? ++
    writeMessage? 4 MethodOptions.encode method.options? ++
    writeBool? 5 method.clientStreaming? ++ writeBool? 6 method.serverStreaming?

/-- The fields of a service. -/
def Service.encode (service : Service) : Bytes :=
  writeText? 1 service.name? ++
    writeEach (fun method => writeBytes 2 method.encode) service.methods

mutual

/-- The fields of a message. -/
def Message.encode : Message → Bytes
  | ⟨name?, nested⟩ => writeText? 1 name? ++ Message.encodeNested nested

/-- A field for each message inside a message. -/
def Message.encodeNested : List Message → Bytes
  | [] => []
  | message :: rest => writeBytes 3 message.encode ++ Message.encodeNested rest

end

/-- The fields of the options of a file. -/
def FileOptions.encode (options : FileOptions) : Bytes :=
  writeText? 11 options.goPackage?

/-- The fields of a file. -/
def File.encode (file : File) : Bytes :=
  writeText? 1 file.name? ++ writeText? 2 file.package? ++
    writeEach (fun message => writeBytes 4 (Message.encode message)) file.messages ++
    writeEach (fun service => writeBytes 6 service.encode) file.services ++
    writeMessage? 8 FileOptions.encode file.options?

/-- The fields of a request. -/
def Request.encode (request : Request) : Bytes :=
  writeEach (writeText 1) request.fileNames ++ writeText? 2 request.parameter? ++
    writeEach (fun file => writeBytes 15 file.encode) request.files

end MethodForge.Schema
