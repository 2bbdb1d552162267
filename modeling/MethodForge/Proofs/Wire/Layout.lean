/-
Module: MethodForge.Proofs.Wire.Layout
Purpose: What a message looks like on the wire, as a tree: its fields in their order, each either whole
  or a message with fields of its own. The same message may come with more fields than it declares,
  as from a writer that knows more of them; they may stand before, between and behind its own fields,
  and so in every message within it, whose length then counts them too.
Main exports: Part, writeParts, IsField, Padded, padded_writeParts, Padded.split, Padded.plain_cases,
  Padded.message_cases
-/
import MethodForge.Proofs.Wire.Varint
import MethodForge.Wire.Field

namespace MethodForge.Wire

open Text (Bytes)

/-- A field of a message, as it is written. -/
inductive Part where
  /-- A field that holds no message: its key and its payload. -/
  | plain (field : Bytes)
  /-- A field that holds a message: its number, the numbers that the message declares, and the
  fields of the message. -/
  | message (tag : Nat) (declared : List Nat) (parts : List Part)

mutual

/-- The bytes of a field. -/
def Part.written : Part → Bytes
  | .plain field => field
  | .message tag _ parts => writeBytes tag (writeParts parts)

/-- The bytes of several fields, one after the other. -/
def writeParts : List Part → Bytes
  | [] => []
  | part :: rest => part.written ++ writeParts rest

end

@[simp] theorem writeParts_nil : writeParts [] = [] := by rw [writeParts]

@[simp] theorem writeParts_cons (part : Part) (rest : List Part) :
    writeParts (part :: rest) = part.written ++ writeParts rest := by rw [writeParts]

@[simp] theorem written_plain (field : Bytes) : (Part.plain field).written = field := by
  rw [Part.written]

@[simp] theorem written_message (tag : Nat) (declared : List Nat) (parts : List Part) :
    (Part.message tag declared parts).written = writeBytes tag (writeParts parts) := by
  rw [Part.written]

@[simp] theorem writeParts_append (first second : List Part) :
    writeParts (first ++ second) = writeParts first ++ writeParts second := by
  induction first with
  | nil => rw [writeParts_nil, List.nil_append, List.nil_append]
  | cons part rest ih =>
      rw [List.cons_append, writeParts_cons, writeParts_cons, ih, List.append_assoc]

theorem writeParts_flatMap {α : Type} (parts : α → List Part) (elements : List α) :
    writeParts (elements.flatMap parts) = elements.flatMap fun each => writeParts (parts each) := by
  induction elements with
  | nil => exact writeParts_nil
  | cons each rest ih => rw [List.flatMap_cons, writeParts_append, ih, List.flatMap_cons]

/-! ### The usual fields -/

/-- A text field that may be missing. -/
def textParts? (tag : Nat) : Option String → List Part
  | some text => [.plain (writeText tag text)]
  | none => []

/-- A text field that is left out when it is empty. -/
def textPartsNonempty (tag : Nat) (text : String) : List Part :=
  if text.isEmpty then [] else [.plain (writeText tag text)]

/-- A number field that may be missing. -/
def numberParts? (tag : Nat) : Option Nat → List Part
  | some value => [.plain (writeNumber tag value)]
  | none => []

/-- A truth field that may be missing. -/
def boolParts? (tag : Nat) (value? : Option Bool) : List Part :=
  numberParts? tag (value?.map fun value => if value then 1 else 0)

/-- A signed word field that is left out when it is zero. -/
def int64PartsNonzero (tag : Nat) (word : Int64) : List Part :=
  if word = 0 then [] else [.plain (writeNumber tag (ofSignedWord word))]

/-- A message field that may be missing. -/
def messageParts? {α : Type} (tag : Nat) (declared : List Nat) (parts : α → List Part) :
    Option α → List Part
  | some message => [.message tag declared (parts message)]
  | none => []

@[simp] theorem writeParts_textParts? (tag : Nat) (text? : Option String) :
    writeParts (textParts? tag text?) = writeText? tag text? := by
  cases text? <;> simp [textParts?, writeText?]

@[simp] theorem writeParts_textPartsNonempty (tag : Nat) (text : String) :
    writeParts (textPartsNonempty tag text) = writeTextNonempty tag text := by
  unfold textPartsNonempty writeTextNonempty
  split <;> simp

@[simp] theorem writeParts_boolParts? (tag : Nat) (value? : Option Bool) :
    writeParts (boolParts? tag value?) = writeBool? tag value? := by
  cases value? <;> simp [boolParts?, numberParts?, writeBool?]

@[simp] theorem writeParts_int64PartsNonzero (tag : Nat) (word : Int64) :
    writeParts (int64PartsNonzero tag word) = writeInt64Nonzero tag word := by
  unfold int64PartsNonzero writeInt64Nonzero
  split <;> simp

/-! ### Fields of any number -/

/-- The numbers that a field can have. -/
def IsTag (tag : Nat) : Prop :=
  0 < tag ∧ tag < 2 ^ 29

instance (tag : Nat) : Decidable (IsTag tag) :=
  inferInstanceAs (Decidable (_ ∧ _))

/-- A whole field of the given number, in any form but a group. -/
inductive IsField (tag : Nat) : Bytes → Prop
  | varint {key payload : Bytes} {value : Nat}
      (keyed : IsVarint (tag * 8 + WireType.varint.code) key) (number : IsVarint value payload) :
      IsField tag (key ++ payload)
  | sixtyFourBit {key payload : Bytes}
      (keyed : IsVarint (tag * 8 + WireType.sixtyFourBit.code) key) (eight : payload.length = 8) :
      IsField tag (key ++ payload)
  | thirtyTwoBit {key payload : Bytes}
      (keyed : IsVarint (tag * 8 + WireType.thirtyTwoBit.code) key) (four : payload.length = 4) :
      IsField tag (key ++ payload)
  | lengthDelimited {key length content : Bytes}
      (keyed : IsVarint (tag * 8 + WireType.lengthDelimited.code) key)
      (measured : IsVarint content.length length) :
      IsField tag (key ++ (length ++ content))

theorem IsField.ne_nil {tag : Nat} {field : Bytes} (whole : IsField tag field) : field ≠ [] := by
  cases whole with
  | varint keyed => exact List.append_ne_nil_of_left_ne_nil keyed.spelled.ne_nil _
  | sixtyFourBit keyed => exact List.append_ne_nil_of_left_ne_nil keyed.spelled.ne_nil _
  | thirtyTwoBit keyed => exact List.append_ne_nil_of_left_ne_nil keyed.spelled.ne_nil _
  | lengthDelimited keyed => exact List.append_ne_nil_of_left_ne_nil keyed.spelled.ne_nil _

/-! ### More fields than declared -/

/-- The bytes of the given fields of a message, with any number of fields that the message does not
declare among them. A message within the message may be padded as well. -/
inductive Padded : List Nat → List Part → Bytes → Prop
  | nil {declared : List Nat} : Padded declared [] []
  | extra {declared : List Nat} {parts : List Part} {tag : Nat} {field bytes : Bytes}
      (numbered : IsTag tag) (undeclared : tag ∉ declared) (whole : IsField tag field)
      (later : Padded declared parts bytes) : Padded declared parts (field ++ bytes)
  | plain {declared : List Nat} {parts : List Part} {field bytes : Bytes}
      (later : Padded declared parts bytes) :
      Padded declared (.plain field :: parts) (field ++ bytes)
  | message {declared inner : List Nat} {parts contents : List Part} {tag : Nat}
      {content bytes : Bytes} (within : Padded inner contents content)
      (later : Padded declared parts bytes) :
      Padded declared (.message tag inner contents :: parts) (writeBytes tag content ++ bytes)

mutual

/-- A field is a padding of itself, as nothing need be added. -/
theorem padded_written (declared : List Nat) {rest : List Part} {bytes : Bytes}
    (later : Padded declared rest bytes) :
    ∀ part : Part, Padded declared (part :: rest) (part.written ++ bytes)
  | .plain field => by
      rw [written_plain]
      exact Padded.plain later
  | .message tag inner contents => by
      rw [written_message]
      exact Padded.message (padded_writeParts inner contents) later

/-- So are the fields of a message. -/
theorem padded_writeParts (declared : List Nat) :
    ∀ parts : List Part, Padded declared parts (writeParts parts)
  | [] => by
      rw [writeParts_nil]
      exact Padded.nil
  | part :: rest => by
      rw [writeParts_cons]
      exact padded_written declared (padded_writeParts declared rest) part

end

/-- Where fields are the ones of two lists, so are the bytes. -/
theorem Padded.split {declared : List Nat} {first second : List Part} {bytes : Bytes}
    (padded : Padded declared (first ++ second) bytes) :
    ∃ before behind, bytes = before ++ behind ∧ Padded declared first before ∧
      Padded declared second behind := by
  generalize whole : first ++ second = parts at padded
  induction padded generalizing first with
  | nil =>
      obtain ⟨rfl, rfl⟩ := List.append_eq_nil_iff.1 whole
      exact ⟨[], [], rfl, Padded.nil, Padded.nil⟩
  | @extra declared parts tag field bytes numbered undeclared isField later ih =>
      obtain ⟨before, behind, rfl, one, other⟩ := ih whole
      refine ⟨field ++ before, behind, (List.append_assoc ..).symm, ?_, other⟩
      exact Padded.extra numbered undeclared isField one
  | @plain declared parts field bytes later ih =>
      cases first with
      | nil =>
          obtain rfl : second = _ := whole
          exact ⟨[], _, rfl, Padded.nil, later.plain⟩
      | cons part rest =>
          obtain ⟨rfl, rfl⟩ := List.cons.inj whole
          obtain ⟨before, behind, rfl, one, other⟩ := ih rfl
          exact ⟨field ++ before, behind, (List.append_assoc ..).symm, one.plain, other⟩
  | @message declared inner parts contents tag content bytes within later _ ih =>
      cases first with
      | nil =>
          obtain rfl : second = _ := whole
          exact ⟨[], _, rfl, Padded.nil, within.message later⟩
      | cons part rest =>
          obtain ⟨rfl, rfl⟩ := List.cons.inj whole
          obtain ⟨before, behind, rfl, one, other⟩ := ih rfl
          refine ⟨writeBytes tag content ++ before, behind, (List.append_assoc ..).symm, ?_, other⟩
          exact within.message one

/-- A field that holds no message stands among its padding as it is. -/
theorem Padded.plain_cases {declared : List Nat} {field bytes : Bytes}
    (padded : Padded declared [.plain field] bytes) :
    ∃ before behind, bytes = before ++ (field ++ behind) ∧ Padded declared [] before ∧
      Padded declared [] behind := by
  generalize whole : [Part.plain field] = parts at padded
  induction padded with
  | nil => cases whole
  | @extra declared parts tag other bytes numbered undeclared isField later ih =>
      obtain ⟨before, behind, rfl, one, two⟩ := ih whole
      refine ⟨other ++ before, behind, (List.append_assoc ..).symm, ?_, two⟩
      exact Padded.extra numbered undeclared isField one
  | plain later =>
      cases whole
      exact ⟨[], _, rfl, Padded.nil, later⟩
  | message => cases whole

/-- A field that holds a message stands among its padding with the message padded. -/
theorem Padded.message_cases {declared inner : List Nat} {contents : List Part} {tag : Nat}
    {bytes : Bytes} (padded : Padded declared [.message tag inner contents] bytes) :
    ∃ before content behind, bytes = before ++ (writeBytes tag content ++ behind) ∧
      Padded inner contents content ∧ Padded declared [] before ∧ Padded declared [] behind := by
  generalize whole : [Part.message tag inner contents] = parts at padded
  induction padded with
  | nil => cases whole
  | @extra declared parts number other bytes numbered undeclared isField later ih =>
      obtain ⟨before, content, behind, rfl, within, one, two⟩ := ih whole
      refine ⟨other ++ before, content, behind, (List.append_assoc ..).symm, within, ?_, two⟩
      exact Padded.extra numbered undeclared isField one
  | plain => cases whole
  | message within later =>
      cases whole
      exact ⟨[], _, _, rfl, within, Padded.nil, later⟩

end MethodForge.Wire
