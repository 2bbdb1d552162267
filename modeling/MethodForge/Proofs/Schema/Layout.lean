/-
Module: MethodForge.Proofs.Schema.Layout
Purpose: A request as a tree of fields. Each kind of part declares some numbers and writes its fields in
  the order of these; written one after the other, the fields of the tree are the encoding. An entry
  of a map is a message of its own, and so is a message within a message, to any depth.
Main exports: Message.depth, Method.parts, Message.parts, File.parts, Request.parts,
  Request.writeParts_parts
-/
import MethodForge.Proofs.Wire.Layout
import MethodForge.Schema.Codec

namespace MethodForge.Schema

open Wire

/-! ### How deep messages are nested -/

mutual

/-- How many messages stand in each other at most, from a message inward. -/
def Message.depth : Message → Nat
  | ⟨_, nested⟩ => nestedDepth nested + 1

/-- How many messages stand in each other at most, from some messages inward. -/
def nestedDepth : List Message → Nat
  | [] => 0
  | message :: rest => max message.depth (nestedDepth rest)

end

theorem Message.depth_pos (message : Message) : 0 < message.depth := by
  obtain ⟨name?, nested⟩ := message
  rw [Message.depth]
  exact Nat.succ_pos _

theorem Message.depth_le_nestedDepth {message : Message} {messages : List Message}
    (member : message ∈ messages) : message.depth ≤ nestedDepth messages := by
  induction messages with
  | nil => cases member
  | cons first rest ih =>
      rw [nestedDepth]
      rcases List.mem_cons.1 member with rfl | inRest
      · exact Nat.le_max_left _ _
      · exact Nat.le_trans (ih inRest) (Nat.le_max_right _ _)

/-- A message within a message is less deep. -/
theorem Message.depth_lt_of_mem {message inner : Message} (member : inner ∈ message.nested) :
    inner.depth < message.depth := by
  obtain ⟨name?, nested⟩ := message
  rw [Message.depth]
  exact Nat.lt_succ_of_le (Message.depth_le_nestedDepth member)

/-! ### Deployments -/

namespace EnvironmentVariable

/-- The numbers that a variable declares. -/
def declared : List Nat := [1, 2]

/-- The fields of a variable. -/
def parts (envVariable : EnvironmentVariable) : List Part :=
  textPartsNonempty 1 envVariable.name ++ textPartsNonempty 2 envVariable.value

end EnvironmentVariable

/-- The numbers that an entry of a map declares. -/
def entryDeclared : List Nat := [1, 2]

/-- The fields of an entry of a map. -/
def entryParts (entry : String × String) : List Part :=
  textPartsNonempty 1 entry.1 ++ textPartsNonempty 2 entry.2

/-- A field for each entry of a map. -/
def mapParts (tag : Nat) (map : SortedMap String) : List Part :=
  map.entries.flatMap fun entry => [.message tag entryDeclared (entryParts entry)]

namespace Resources

/-- The numbers that the quantities declare. -/
def declared : List Nat := [1, 2]

/-- The fields of the quantities. -/
def parts (resources : Resources) : List Part :=
  mapParts 1 resources.limits ++ mapParts 2 resources.requests

end Resources

namespace DeployOptions

/-- The numbers that a deployment declares. -/
def declared : List Nat := [1, 2, 3, 4, 5]

/-- The fields of a deployment. -/
def parts (deploy : DeployOptions) : List Part :=
  textPartsNonempty 1 deploy.serviceAccount ++
    int64PartsNonzero 2 deploy.containerConcurrency ++
    int64PartsNonzero 3 deploy.timeoutSeconds ++
    deploy.env.flatMap
      (fun envVariable => [.message 4 EnvironmentVariable.declared envVariable.parts]) ++
    messageParts? 5 Resources.declared Resources.parts deploy.resources?

end DeployOptions

/-! ### Services -/

namespace MethodOptions

/-- The number that the options of a method declare. -/
def declared : List Nat := [deployOptionsTag]

/-- The fields of the options of a method. -/
def parts (options : MethodOptions) : List Part :=
  messageParts? deployOptionsTag DeployOptions.declared DeployOptions.parts options.deploy?

end MethodOptions

namespace Method

/-- The numbers that a method declares. -/
def declared : List Nat := [1, 2, 3, 4, 5, 6]

/-- The fields of a method. -/
def parts (method : Method) : List Part :=
  textParts? 1 method.name? ++ textParts? 2 method.inputType? ++ textParts? 3 method.outputType? ++
    messageParts? 4 MethodOptions.declared MethodOptions.parts method.options? ++
    boolParts? 5 method.clientStreaming? ++ boolParts? 6 method.serverStreaming?

end Method

namespace Service

/-- The numbers that a service declares. -/
def declared : List Nat := [1, 2]

/-- The fields of a service. -/
def parts (service : Service) : List Part :=
  textParts? 1 service.name? ++
    service.methods.flatMap fun method => [.message 2 Method.declared method.parts]

end Service

/-! ### Files -/

/-- The numbers that a message declares. -/
def Message.declared : List Nat := [1, 3]

mutual

/-- The fields of a message. -/
def Message.parts : Message → List Part
  | ⟨name?, nested⟩ => textParts? 1 name? ++ nestedParts nested

/-- A field for each message inside a message. -/
def nestedParts : List Message → List Part
  | [] => []
  | message :: rest => .message 3 Message.declared message.parts :: nestedParts rest

end

theorem nestedParts_eq_flatMap (messages : List Message) :
    nestedParts messages =
      messages.flatMap fun message => [.message 3 Message.declared message.parts] := by
  induction messages with
  | nil => rw [nestedParts, List.flatMap_nil]
  | cons message rest ih => rw [nestedParts, ih, List.flatMap_cons, List.singleton_append]

namespace FileOptions

/-- The number that the options of a file declare. -/
def declared : List Nat := [11]

/-- The fields of the options of a file. -/
def parts (options : FileOptions) : List Part :=
  textParts? 11 options.goPackage?

end FileOptions

namespace File

/-- The numbers that a file declares. -/
def declared : List Nat := [1, 2, 4, 6, 8]

/-- The fields of a file. -/
def parts (file : File) : List Part :=
  textParts? 1 file.name? ++ textParts? 2 file.package? ++
    file.messages.flatMap (fun message => [.message 4 Message.declared message.parts]) ++
    file.services.flatMap (fun service => [.message 6 Service.declared service.parts]) ++
    messageParts? 8 FileOptions.declared FileOptions.parts file.options?

end File

namespace Request

/-- The numbers that a request declares. -/
def declared : List Nat := [1, 2, 15]

/-- The fields of a request. -/
def parts (request : Request) : List Part :=
  request.fileNames.flatMap (fun name => [.plain (writeText 1 name)]) ++
    textParts? 2 request.parameter? ++
    request.files.flatMap (fun file => [.message 15 File.declared file.parts])

end Request

/-! ### The fields make up the encoding -/

theorem writeParts_messageParts? {α : Type} {tag : Nat} {declared : List Nat} {parts : α → List Part}
    {write : α → Text.Bytes} (same : ∀ message, writeParts (parts message) = write message)
    (message? : Option α) :
    writeParts (messageParts? tag declared parts message?) = writeMessage? tag write message? := by
  cases message? <;> simp [messageParts?, writeMessage?, same]

theorem EnvironmentVariable.writeParts_parts (envVariable : EnvironmentVariable) :
    writeParts envVariable.parts = envVariable.encode := by
  simp [parts, encode]

theorem writeParts_mapParts (tag : Nat) (map : SortedMap String) :
    writeParts (mapParts tag map) = writeMap tag map := by
  simp [mapParts, entryParts, writeMap, writeEach, writeParts_flatMap]

theorem Resources.writeParts_parts (resources : Resources) :
    writeParts resources.parts = resources.encode := by
  simp [parts, encode, writeParts_mapParts]

theorem DeployOptions.writeParts_parts (deploy : DeployOptions) :
    writeParts deploy.parts = deploy.encode := by
  simp [parts, encode, writeEach, writeParts_flatMap, EnvironmentVariable.writeParts_parts,
    writeParts_messageParts? Resources.writeParts_parts]

theorem MethodOptions.writeParts_parts (options : MethodOptions) :
    writeParts options.parts = options.encode := by
  simp [parts, encode, writeParts_messageParts? DeployOptions.writeParts_parts]

theorem Method.writeParts_parts (method : Method) :
    writeParts method.parts = method.encode := by
  simp [parts, encode, writeParts_messageParts? MethodOptions.writeParts_parts]

theorem Service.writeParts_parts (service : Service) :
    writeParts service.parts = service.encode := by
  simp [parts, encode, writeEach, writeParts_flatMap, Method.writeParts_parts]

mutual

theorem Message.writeParts_parts : ∀ message : Message, writeParts message.parts = message.encode
  | ⟨name?, nested⟩ => by
      rw [Message.parts, Message.encode, writeParts_append, writeParts_textParts?,
        writeParts_nestedParts nested]

theorem writeParts_nestedParts :
    ∀ messages : List Message, writeParts (nestedParts messages) = Message.encodeNested messages
  | [] => by rw [nestedParts, Message.encodeNested, writeParts_nil]
  | message :: rest => by
      rw [nestedParts, Message.encodeNested, writeParts_cons, written_message,
        Message.writeParts_parts message, writeParts_nestedParts rest]

end

theorem FileOptions.writeParts_parts (options : FileOptions) :
    writeParts options.parts = options.encode := by
  simp [parts, encode]

theorem File.writeParts_parts (file : File) : writeParts file.parts = file.encode := by
  simp [parts, encode, writeEach, writeParts_flatMap, Message.writeParts_parts,
    Service.writeParts_parts, writeParts_messageParts? FileOptions.writeParts_parts]

/-- The encoding of a request is its fields, one after the other. -/
theorem Request.writeParts_parts (request : Request) :
    writeParts request.parts = request.encode := by
  simp [parts, encode, writeEach, writeParts_flatMap, File.writeParts_parts]

end MethodForge.Schema
