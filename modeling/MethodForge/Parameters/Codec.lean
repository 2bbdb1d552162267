/-
Module: MethodForge.Parameters.Codec
Purpose: The text form of a record, in which it travels through a command line: a JSON object without
  the empty fields, wrapped in base64, so that no shell and no `go:generate` line has to quote it.
  Reading accepts the members in any order, passes over unknown ones, reads a JSON list as the
  fields in their order, and takes a field that is not there as empty. A record that names a
  service without a method, or a method without a service, is refused.
Main exports: encode, decode, ParameterError
-/
import MethodForge.JsonText.Value
import MethodForge.Parameters.Basic
import MethodForge.Text.Base64

namespace MethodForge.Parameters

open JsonText (Fault Parsed skipBlanks)

/-- Whether a field is written: the name always, any other if it is not empty. -/
def isWritten (parameters : Parameters) (field : Field) : Bool :=
  field == .name || !(parameters.get field).isEmpty

/-- One member of the JSON object. -/
def member (parameters : Parameters) (field : Field) : String :=
  JsonText.quote field.key ++ ":" ++ JsonText.quote (parameters.get field)

/-- The JSON object of a record. -/
def toJson (parameters : Parameters) : String :=
  let members := (Field.all.filter parameters.isWritten).map parameters.member
  "\x7b" ++ ",".intercalate members ++ "\x7d"

/-- The text form of a record. -/
def encode (parameters : Parameters) : String :=
  Text.Base64.encode (Text.Utf8.encode parameters.toJson)

/-- The values that a reader has found so far. -/
abbrev Found := List (Field × String)

/-- The value found for a field. -/
def Found.get (found : Found) (field : Field) : String :=
  (found.lookup field).getD ""

/-- What follows blanks and the bracket that ends an object, if it is there. A field that comes twice
is reported from here. -/
def passObjectEnd (input : List Char) : List Char :=
  match skipBlanks input with
  | '}' :: rest => rest
  | other => other

/-- Reads the members of an object behind its bracket. `first` says that none has been read. Every
member takes a character at least, so the length of the text is steps enough. -/
def readMembers : Nat → Bool → Found → List Char → Parsed (Found × List Char)
  | 0, _, _, input => .error (.behind .endInObject input)
  | steps + 1, first, found, input =>
      let memberAt (rest : List Char) : Parsed (Found × List Char) := do
        let (key, rest) ← JsonText.readString rest
        match Field.ofKey? (String.ofList key) with
        | none =>
            let rest ← JsonText.passColon rest
            let rest ← JsonText.passValue rest
            readMembers steps false found rest
        | some field =>
            if (found.lookup field).isSome then
              .error (.behind (.duplicateField field.key) (passObjectEnd rest))
            else
              let rest ← JsonText.passColon rest
              let (value, rest) ← JsonText.expectString rest
              readMembers steps false ((field, value) :: found) rest
      match skipBlanks input with
      | [] => .error (.behind .endInObject [])
      | '}' :: rest => .ok (found, rest)
      | '"' :: rest =>
          if first then memberAt rest
          else .error (.ahead1 .expectedObjectCommaOrEnd ('"' :: rest))
      | ',' :: rest =>
          if first then .error (.ahead1 .keyMustBeString (',' :: rest))
          else
            match skipBlanks rest with
            | [] => .error (.behind .endInValue [])
            | '"' :: rest => memberAt rest
            | '}' :: rest => .error (.ahead1 .trailingComma ('}' :: rest))
            | other => .error (.ahead1 .keyMustBeString other)
      | other =>
          if first then .error (.ahead1 .keyMustBeString other)
          else .error (.ahead1 .expectedObjectCommaOrEnd other)

/-- Reads what ends a list behind the value of the last field. -/
def readListEnd (found : Found) (input : List Char) : Parsed (Found × List Char) :=
  match skipBlanks input with
  | [] => .error (.behind .endInList [])
  | ']' :: rest => .ok (found, rest)
  | ',' :: rest =>
      match skipBlanks rest with
      | [] => .error (.behind .trailingCharacters [])
      | ']' :: rest => .error (.ahead1 .trailingComma (']' :: rest))
      | other => .error (.ahead1 .trailingCharacters other)
  | other => .error (.ahead1 .trailingCharacters other)

/-- Reads the elements of a list behind its bracket as the values of the given fields. -/
def readElements : List Field → Bool → Found → List Char → Parsed (Found × List Char)
  | [], _, found, input => readListEnd found input
  | field :: fields, first, found, input =>
      let elementAt (rest : List Char) : Parsed (Found × List Char) := do
        let (value, rest) ← JsonText.expectString rest
        readElements fields false ((field, value) :: found) rest
      match skipBlanks input with
      | [] => .error (.behind .endInList [])
      | ']' :: rest => .ok (found, rest)
      | ',' :: rest =>
          if first then elementAt (',' :: rest)
          else
            match skipBlanks rest with
            | [] => .error (.behind .endInValue [])
            | ']' :: rest => .error (.ahead1 .trailingComma (']' :: rest))
            | other => elementAt other
      | other =>
          if first then elementAt other else .error (.ahead1 .expectedListCommaOrEnd other)

/-- Reads the values of a record, which is an object or a list. -/
def readRecord (input : List Char) : Parsed (Found × List Char) :=
  match skipBlanks input with
  | [] => .error (.behind .endInValue [])
  | '{' :: rest => readMembers (rest.length + 1) true [] rest
  | '[' :: rest => readElements Field.all true [] rest
  | other => .error (JsonText.wrongType "struct Parameters" other)

/-- Reads a record that is all of a text. -/
def ofJson (text : List Char) : Parsed Parameters := do
  let (found, rest) ← readRecord text
  match skipBlanks rest with
  | [] => return ofFields found.get
  | other => .error (.ahead1 .trailingCharacters other)

end Parameters

/-- Why a text is not the text form of a record. -/
inductive ParameterError where
  | base64 (defect : Text.Base64.Defect)
  | utf8 (defect : Text.Utf8.Defect)
  | json (fault : JsonText.Fault) (text : List Char)
  | partialTarget (service method : String)
deriving Repr, DecidableEq

/-- The message of an error. -/
def ParameterError.message : ParameterError → String
  | .base64 defect => "parameter is not valid base64: " ++ defect.message
  | .utf8 defect => "parameter payload is not UTF-8: " ++ defect.message
  | .json fault text => "parameter payload is not a valid record: " ++ fault.message text
  | .partialTarget service method =>
      s!"service ({Text.quoted service}) and method ({Text.quoted method}) must be set together"

namespace Parameters

/-- Refuses a record that names only one of service and method. -/
def validate (parameters : Parameters) : Except ParameterError Unit :=
  if parameters.isWhole then .ok ()
  else .error (.partialTarget parameters.service parameters.method)

/-- Reads the text form of a record. Blanks around it do not count. -/
def decode (encoded : String) : Except ParameterError Parameters := do
  let bytes ← (Text.Base64.decode (Text.Utf8.encode (Text.trim encoded))).mapError .base64
  let text ← (Text.Utf8.decodeChars bytes).mapError .utf8
  let parameters ← (ofJson text).mapError (.json · text)
  parameters.validate
  return parameters

end Parameters

end MethodForge
