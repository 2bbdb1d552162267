/-
Module: MethodForge.Wire.Field
Purpose: The fields of a protobuf message on the wire. A field is a key, which holds its number and
  the form of its payload, and the payload. A message is read field by field: a field the message
  knows is merged into what has been read so far, any other is passed over. Reading a message
  within a message spends one from a budget, so that no input can nest without end. The payload of
  a message is checked against its length only when the reader has come to or past its end, and a
  length is checked against all of the input that is left.
Main exports: WireType, Defect, DecodeError, Decoded, Step, within, skipField, mergeFields, submessage
-/
import MethodForge.Wire.Varint

namespace MethodForge.Wire

open Text (Bytes)

/-- The forms of a payload. -/
inductive WireType where
  | varint
  | sixtyFourBit
  | lengthDelimited
  | startGroup
  | endGroup
  | thirtyTwoBit
deriving Repr, DecidableEq

/-- The number of a form in a key. -/
def WireType.code : WireType → Nat
  | .varint => 0
  | .sixtyFourBit => 1
  | .lengthDelimited => 2
  | .startGroup => 3
  | .endGroup => 4
  | .thirtyTwoBit => 5

/-- The form with the given number. -/
def WireType.ofCode? : Nat → Option WireType
  | 0 => some .varint
  | 1 => some .sixtyFourBit
  | 2 => some .lengthDelimited
  | 3 => some .startGroup
  | 4 => some .endGroup
  | 5 => some .thirtyTwoBit
  | _ => none

/-- The name of a form. -/
def WireType.name : WireType → String
  | .varint => "Varint"
  | .sixtyFourBit => "SixtyFourBit"
  | .lengthDelimited => "LengthDelimited"
  | .startGroup => "StartGroup"
  | .endGroup => "EndGroup"
  | .thirtyTwoBit => "ThirtyTwoBit"

/-- What is wrong with a message. -/
inductive Defect where
  | invalidVarint
  | invalidKey (value : Nat)
  | invalidWireType (code : Nat)
  | zeroTag
  | wrongWireType (found expected : WireType)
  | bufferUnderflow
  | lengthExceeded
  | notUtf8
  | recursionLimit
  | unexpectedEndGroup
deriving Repr, DecidableEq

/-- The words for a defect. -/
def Defect.describe : Defect → String
  | .invalidVarint => "invalid varint"
  | .invalidKey value => s!"invalid key value: {value}"
  | .invalidWireType code => s!"invalid wire type value: {code}"
  | .zeroTag => "invalid tag value: 0"
  | .wrongWireType found expected =>
      s!"invalid wire type: {found.name} (expected {expected.name})"
  | .bufferUnderflow => "buffer underflow"
  | .lengthExceeded => "delimited length exceeded"
  | .notUtf8 => "invalid string value: data is not UTF-8 encoded"
  | .recursionLimit => "recursion limit reached"
  | .unexpectedEndGroup => "unexpected end group tag"

/-- A defect and the fields that were being read, the innermost first. -/
structure DecodeError where
  context : List (String × String)
  defect : Defect
deriving Repr, DecidableEq

/-- The message of an error. -/
def DecodeError.message (error : DecodeError) : String :=
  "failed to decode Protobuf message: " ++
    String.join (error.context.map fun field => s!"{field.1}.{field.2}: ") ++
      error.defect.describe

/-- What decoding gives: a value or an error. A reader's value comes with the bytes behind it. -/
abbrev Decoded := Except DecodeError

/-- Fails with a defect, in no field yet. -/
def fail {α : Type} (defect : Defect) : Decoded α :=
  .error ⟨[], defect⟩

/-- Adds the field that was being read to an error. -/
def within {α : Type} (message field : String) : Decoded α → Decoded α
  | .ok value => .ok value
  | .error error => .error ⟨error.context ++ [(message, field)], error.defect⟩

/-- Reads a number. -/
def number (bytes : Bytes) : Decoded (Nat × Bytes) :=
  match readVarint bytes with
  | some reading => .ok reading
  | none => fail .invalidVarint

/-- The key of a field. -/
structure Key where
  tag : Nat
  wireType : WireType
deriving Repr, DecidableEq

/-- The key that a number stands for. -/
def Key.ofNumber (value : Nat) : Decoded Key :=
  if value ≥ Nat.pow 2 32 then fail (.invalidKey value)
  else
    match WireType.ofCode? (value % 8) with
    | none => fail (.invalidWireType (value % 8))
    | some wireType => if value / 8 = 0 then fail .zeroTag else .ok ⟨value / 8, wireType⟩

/-- Reads a key. -/
def readKey (bytes : Bytes) : Decoded (Key × Bytes) := do
  let (value, rest) ← number bytes
  return (← Key.ofNumber value, rest)

/-- Refuses a payload of another form than the field has. -/
def expect (expected found : WireType) : Decoded Unit :=
  if found = expected then .ok () else fail (.wrongWireType found expected)

/-- Passes over a number of bytes. -/
def advance (count : Nat) (bytes : Bytes) : Decoded Bytes :=
  if count > bytes.length then fail .bufferUnderflow else .ok (bytes.drop count)

/-- Reads a payload that is a length and as many bytes. -/
def readBytes (wireType : WireType) (bytes : Bytes) : Decoded (Bytes × Bytes) := do
  expect .lengthDelimited wireType
  let (length, rest) ← number bytes
  if length > rest.length then fail .bufferUnderflow
  else return (rest.take length, rest.drop length)

/-- Reads a payload that is a text. -/
def readText (wireType : WireType) (bytes : Bytes) : Decoded (String × Bytes) := do
  let (content, rest) ← readBytes wireType bytes
  match Text.Utf8.decode content with
  | .error _ => fail .notUtf8
  | .ok text => return (text, rest)

/-- Reads a payload that is a number. -/
def readNumber (wireType : WireType) (bytes : Bytes) : Decoded (Nat × Bytes) := do
  expect .varint wireType
  number bytes

/-- Reads a payload that is a truth value: any number but zero is true. -/
def readBool (wireType : WireType) (bytes : Bytes) : Decoded (Bool × Bytes) := do
  let (value, rest) ← readNumber wireType bytes
  return (value != 0, rest)

/-- Reads a payload that is a signed word. -/
def readInt64 (wireType : WireType) (bytes : Bytes) : Decoded (Int64 × Bytes) := do
  let (value, rest) ← readNumber wireType bytes
  return (signedWord value, rest)

/-- Passes over the fields of a group up to the key that ends it. `skip` passes over one field. Each
field takes a byte at least, so one step for each byte and one for the end are enough. -/
def skipGroup (skip : Key → Bytes → Decoded Bytes) (tag : Nat) :
    Nat → Bytes → Decoded Bytes
  | 0, _ => fail .invalidVarint
  | steps + 1, bytes => do
      let (key, rest) ← readKey bytes
      if key.wireType = .endGroup then
        if key.tag = tag then return rest else fail .unexpectedEndGroup
      else
        let rest ← skip key rest
        skipGroup skip tag steps rest

/-- Passes over the payload of a field that the message does not know. -/
def skipField : Nat → Key → Bytes → Decoded Bytes
  | 0, _, _ => fail .recursionLimit
  | budget + 1, key, bytes =>
      match key.wireType with
      | .varint => do
          let (_, rest) ← number bytes
          return rest
      | .thirtyTwoBit => advance 4 bytes
      | .sixtyFourBit => advance 8 bytes
      | .lengthDelimited => do
          let (length, rest) ← number bytes
          advance length rest
      | .startGroup => skipGroup (skipField budget) key.tag (bytes.length + 1) bytes
      | .endGroup => fail .unexpectedEndGroup

/-- Merges the payload of one field into a message. -/
abbrev Step (α : Type) := Key → α → Bytes → Decoded (α × Bytes)

/-- A step that passes over its field. -/
def unknown {α : Type} (budget : Nat) : Step α := fun key value bytes =>
  return (value, ← skipField budget key bytes)

/-- Merges fields until no more than `limit` bytes are left. Each field takes a byte at least, so one
step for each byte is enough. -/
def mergeFrom {α : Type} (step : Step α) (limit : Nat) :
    Nat → α → Bytes → Decoded (α × Bytes)
  | 0, value, bytes => .ok (value, bytes)
  | steps + 1, value, bytes =>
      if bytes.length > limit then do
        let (key, rest) ← readKey bytes
        let (value, rest) ← step key value rest
        mergeFrom step limit steps value rest
      else .ok (value, bytes)

/-- Merges the fields of a message that ends where `limit` bytes are left. -/
def mergeFields {α : Type} (step : Step α) (limit : Nat) (value : α) (bytes : Bytes) :
    Decoded (α × Bytes) := do
  let (value, rest) ← mergeFrom step limit bytes.length value bytes
  if rest.length = limit then return (value, rest) else fail .lengthExceeded

/-- Merges a length and the fields of a message of that length. `step` is missing when the budget is
spent. -/
def delimited {α : Type} (step : Option (Step α)) (value : α) (bytes : Bytes) :
    Decoded (α × Bytes) :=
  match step with
  | none => fail .recursionLimit
  | some step => do
      let (length, rest) ← number bytes
      if length > rest.length then fail .bufferUnderflow
      else mergeFields step (rest.length - length) value rest

/-- Merges a payload that is a message. -/
def submessage {α : Type} (step : Option (Step α)) (wireType : WireType) (value : α)
    (bytes : Bytes) : Decoded (α × Bytes) := do
  expect .lengthDelimited wireType
  delimited step value bytes

/-- The budget for messages within messages. -/
def recursionBudget : Nat := 100

/-- What a budget leaves for a message within the message. -/
def spend {α : Type} (step : Nat → α) : Nat → Option α
  | 0 => none
  | budget + 1 => some (step budget)

/-- Puts what a reader gives through a function. -/
def mapValue {α β : Type} (f : α → β) : Decoded (α × Bytes) → Decoded (β × Bytes)
  | .ok (value, rest) => .ok (f value, rest)
  | .error error => .error error

/-- Reads a message that is all of the bytes. -/
def decodeMessage {α : Type} (step : Nat → Step α) (start : α) (bytes : Bytes) :
    Decoded α := do
  let (value, _) ← mergeFields (step recursionBudget) 0 start bytes
  return value

/-- The key of a field, written. -/
def writeKey (tag : Nat) (wireType : WireType) : Bytes :=
  varint (tag * 8 + wireType.code)

/-- A field whose payload is a length and as many bytes. -/
def writeBytes (tag : Nat) (content : Bytes) : Bytes :=
  writeKey tag .lengthDelimited ++ varint content.length ++ content

/-- A text field. -/
def writeText (tag : Nat) (text : String) : Bytes :=
  writeBytes tag (Text.Utf8.encode text)

/-- A text field that may be missing. -/
def writeText? (tag : Nat) : Option String → Bytes
  | some text => writeText tag text
  | none => []

/-- A text field that is left out when it is empty. -/
def writeTextNonempty (tag : Nat) (text : String) : Bytes :=
  if text.isEmpty then [] else writeText tag text

/-- A number field. -/
def writeNumber (tag : Nat) (value : Nat) : Bytes :=
  writeKey tag .varint ++ varint value

/-- A truth field that may be missing. -/
def writeBool? (tag : Nat) : Option Bool → Bytes
  | some value => writeNumber tag (if value then 1 else 0)
  | none => []

/-- A signed word field that is left out when it is zero. -/
def writeInt64Nonzero (tag : Nat) (word : Int64) : Bytes :=
  if word = 0 then [] else writeNumber tag (ofSignedWord word)

end MethodForge.Wire
