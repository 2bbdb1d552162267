/-
Module: MethodForge.Response
Purpose: The answer to a request: files or one error, never both. On the wire an answer also says
  that the generators understand optional fields.
Main exports: GeneratedFile, Response, Response.encode, WireResponse, WireResponse.decode
-/
import MethodForge.Wire.Field

namespace MethodForge

open Wire
open Text (Bytes)

/-- A file that a generator wrote. -/
structure GeneratedFile where
  /-- The path of the file from the output directory of the run. -/
  name : String
  content : String
deriving Repr, DecidableEq, Inhabited

/-- The answer to a request. -/
inductive Response where
  /-- The files, in the order in which they were written. -/
  | files (generated : List GeneratedFile)
  /-- Why there are none. -/
  | failure (message : String)
deriving Repr, DecidableEq

/-- Whether an answer is an error. -/
def Response.isFailure : Response → Bool
  | .files _ => false
  | .failure _ => true

/-- A file of an answer on the wire. -/
structure WireFile where
  name? : Option String := none
  insertionPoint? : Option String := none
  content? : Option String := none
deriving Repr, DecidableEq, Inhabited

/-- An answer on the wire. -/
structure WireResponse where
  error? : Option String := none
  supportedFeatures? : Option Nat := none
  files : List WireFile := []
deriving Repr, DecidableEq, Inhabited

/-- The number that stands for optional fields among the features. -/
def optionalFieldsFeature : Nat := 1

/-- The form of an answer on the wire. -/
def Response.toWire : Response → WireResponse
  | .files generated =>
      { supportedFeatures? := some optionalFieldsFeature
        files := generated.map fun file =>
          { name? := some file.name, content? := some file.content } }
  | .failure message =>
      { error? := some message, supportedFeatures? := some optionalFieldsFeature }

/-- The fields of a file. -/
def WireFile.encode (file : WireFile) : Bytes :=
  writeText? 1 file.name? ++ writeText? 2 file.insertionPoint? ++ writeText? 15 file.content?

/-- The fields of an answer. -/
def WireResponse.encode (response : WireResponse) : Bytes :=
  writeText? 1 response.error? ++
    (match response.supportedFeatures? with
      | some features => writeNumber 2 features
      | none => []) ++
    response.files.flatMap fun file => writeBytes 15 file.encode

/-- The bytes of an answer. -/
def Response.encode (response : Response) : Bytes :=
  response.toWire.encode

/-- Merges a field of a file. -/
def WireFile.step (budget : Nat) : Step WireFile := fun key value bytes =>
  match key.tag with
  | 1 => within "File" "name"
      (mapValue ({ value with name? := some · }) (readText key.wireType bytes))
  | 2 => within "File" "insertion_point"
      (mapValue ({ value with insertionPoint? := some · }) (readText key.wireType bytes))
  | 15 => within "File" "content"
      (mapValue ({ value with content? := some · }) (readText key.wireType bytes))
  | _ => unknown budget key value bytes

/-- Merges a field of an answer. -/
def WireResponse.step (budget : Nat) : Step WireResponse := fun key value bytes =>
  match key.tag with
  | 1 => within "CodeGeneratorResponse" "error"
      (mapValue ({ value with error? := some · }) (readText key.wireType bytes))
  | 2 => within "CodeGeneratorResponse" "supported_features"
      (mapValue ({ value with supportedFeatures? := some · }) (readNumber key.wireType bytes))
  | 15 => within "CodeGeneratorResponse" "file"
      (mapValue (fun file => { value with files := value.files ++ [file] })
        (submessage (spend WireFile.step budget) key.wireType {} bytes))
  | _ => unknown budget key value bytes

/-- Reads an answer. -/
def WireResponse.decode (bytes : Bytes) : Except DecodeError WireResponse :=
  decodeMessage WireResponse.step {} bytes

end MethodForge
