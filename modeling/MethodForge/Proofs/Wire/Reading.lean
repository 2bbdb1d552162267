/-
Module: MethodForge.Proofs.Wire.Reading
Purpose: Reading fields back, whatever stands between them. A list of fields leads a reader from one
  state of a message to another if every padding of them does. Lists of fields are put together from
  the usual ones: a text, a number, a message, each of which may be missing, and one for each element
  of a list.
Main exports: Reads, Reads.append, reads_textParts?, reads_textPartsNonempty, reads_numberParts?,
  reads_int64PartsNonzero, reads_message, reads_messageParts?, reads_flatMap
-/
import MethodForge.Proofs.Wire.Merging

namespace MethodForge.Wire

open Text (Bytes)

variable {α β : Type} {step : Step α} {declared : List Nat} {start next finish : α}

/-- The fields lead from one state to another, however they are padded. No sequence of bytes in
memory is as long as `2 ^ 64`. -/
def Reads (step : Step α) (declared : List Nat) (parts : List Part) (start finish : α) : Prop :=
  ∀ bytes : Bytes, Padded declared parts bytes → bytes.length < 2 ^ 64 →
    Merges step start bytes finish

theorem Reads.append {first second : List Part} (before : Reads step declared first start next)
    (behind : Reads step declared second next finish) :
    Reads step declared (first ++ second) start finish := by
  intro bytes padded small
  obtain ⟨one, other, rfl, paddedOne, paddedOther⟩ := padded.split
  rw [List.length_append] at small
  have early := before one paddedOne (by omega)
  have late := behind other paddedOther (by omega)
  exact early.append late

/-! ### Payloads -/

theorem readBytes_append {content : Bytes} (small : content.length < 2 ^ 64) (rest : Bytes) :
    readBytes .lengthDelimited (varint content.length ++ (content ++ rest)) =
      .ok (content, rest) := by
  have within : ¬ content.length > (content ++ rest).length := by simp
  have expected : expect .lengthDelimited .lengthDelimited = .ok () := rfl
  rw [readBytes, expected, bind_ok, number_varint small, bind_ok]
  dsimp only
  rw [if_neg within, List.take_left, List.drop_left]
  rfl

theorem readText_append {text : String} (small : (Text.Utf8.encode text).length < 2 ^ 64)
    (rest : Bytes) :
    readText .lengthDelimited
        (varint (Text.Utf8.encode text).length ++ (Text.Utf8.encode text ++ rest)) =
      .ok (text, rest) := by
  rw [readText, readBytes_append small, bind_ok]
  dsimp only
  rw [Text.Utf8.decode_encode]
  rfl

theorem readNumber_append {value : Nat} (small : value < 2 ^ 64) (rest : Bytes) :
    readNumber .varint (varint value ++ rest) = .ok (value, rest) := by
  have expected : expect .varint .varint = .ok () := rfl
  rw [readNumber, expected, bind_ok, number_varint small]

theorem writeBytes_append (tag : Nat) (content rest : Bytes) :
    writeBytes tag content ++ rest =
      writeKey tag .lengthDelimited ++ (varint content.length ++ (content ++ rest)) := by
  rw [writeBytes, List.append_assoc, List.append_assoc]

theorem length_le_length_writeBytes (tag : Nat) (content : Bytes) :
    content.length ≤ (writeBytes tag content).length := by
  rw [writeBytes, List.length_append]
  exact Nat.le_add_left _ _

theorem writeBytes_ne_nil {tag : Nat} (numbered : IsTag tag) (content : Bytes) :
    writeBytes tag content ≠ [] := by
  rw [writeBytes, List.append_assoc]
  exact List.append_ne_nil_of_left_ne_nil (writeKey_ne_nil numbered) _

/-! ### Single fields -/

section

variable (skips : Skips step declared)
include skips

/-- Nothing but padding changes nothing. -/
theorem reads_nil (value : α) : Reads step declared [] value value := by
  intro bytes padded small
  generalize none : ([] : List Part) = parts at padded
  induction padded with
  | nil => exact Merges.nil
  | extra numbered undeclared whole later ih =>
      rw [List.length_append] at small
      refine Merges.field whole.ne_nil (skips _ _ numbered undeclared whole value) ?_
      exact ih skips (by omega) none
  | plain => cases none
  | message => cases none

/-- A field that holds no message does among its padding what it does alone. -/
theorem reads_plain {field : Bytes} (nonempty : field ≠ [])
    (read : field.length < 2 ^ 64 →
      ∀ rest, mergeField step start (field ++ rest) = .ok (finish, rest)) :
    Reads step declared [.plain field] start finish := by
  intro bytes padded small
  obtain ⟨before, behind, rfl, paddedBefore, paddedBehind⟩ := padded.plain_cases
  simp only [List.length_append] at small
  have early := reads_nil skips start before paddedBefore (by omega)
  have late := reads_nil skips finish behind paddedBehind (by omega)
  have middle := Merges.single nonempty (read (by omega))
  exact early.append (middle.append late)

/-- A message within the message is read by a step of its own. -/
theorem reads_message {tag : Nat} (numbered : IsTag tag) {sub : Step β} {inner : List Nat}
    {contents : List Part} {first last : β} (within : Reads sub inner contents first last)
    (read : ∀ {bytes rest : Bytes}, delimited (some sub) first bytes = .ok (last, rest) →
      step ⟨tag, .lengthDelimited⟩ start bytes = .ok (finish, rest)) :
    Reads step declared [.message tag inner contents] start finish := by
  intro bytes padded small
  obtain ⟨before, content, behind, rfl, paddedContent, paddedBefore, paddedBehind⟩ :=
    padded.message_cases
  simp only [List.length_append] at small
  have shorter := length_le_length_writeBytes tag content
  have early := reads_nil skips start before paddedBefore (by omega)
  have late := reads_nil skips finish behind paddedBehind (by omega)
  have run := within content paddedContent (by omega)
  have middle : Merges step start (writeBytes tag content) finish := by
    refine Merges.single (writeBytes_ne_nil numbered content) fun rest => ?_
    rw [writeBytes_append, mergeField_writeKey numbered]
    exact read (delimited_of_merges (by omega) run rest)
  exact early.append (middle.append late)

theorem reads_text {tag : Nat} (numbered : IsTag tag) {text : String}
    (read : ∀ {bytes rest : Bytes}, readText .lengthDelimited bytes = .ok (text, rest) →
      step ⟨tag, .lengthDelimited⟩ start bytes = .ok (finish, rest)) :
    Reads step declared [.plain (writeText tag text)] start finish := by
  refine reads_plain skips (writeBytes_ne_nil numbered _) fun small rest => ?_
  have shorter := length_le_length_writeBytes tag (Text.Utf8.encode text)
  have content : (Text.Utf8.encode text).length < 2 ^ 64 := Nat.lt_of_le_of_lt shorter small
  rw [writeText, writeBytes_append, mergeField_writeKey numbered]
  exact read (readText_append content rest)

theorem reads_number {tag value : Nat} (numbered : IsTag tag) (fits : value < 2 ^ 64)
    (read : ∀ {bytes rest : Bytes}, readNumber .varint bytes = .ok (value, rest) →
      step ⟨tag, .varint⟩ start bytes = .ok (finish, rest)) :
    Reads step declared [.plain (writeNumber tag value)] start finish := by
  have nonempty : writeNumber tag value ≠ [] :=
    List.append_ne_nil_of_left_ne_nil (writeKey_ne_nil numbered) _
  refine reads_plain skips nonempty fun _ rest => ?_
  rw [writeNumber, List.append_assoc, mergeField_writeKey numbered]
  exact read (readNumber_append fits rest)

/-! ### Fields that may be missing -/

theorem reads_textParts? {tag : Nat} (numbered : IsTag tag) {text? : Option String}
    (missing : text? = none → start = finish)
    (read : ∀ {text : String} {bytes rest : Bytes}, text? = some text →
      readText .lengthDelimited bytes = .ok (text, rest) →
        step ⟨tag, .lengthDelimited⟩ start bytes = .ok (finish, rest)) :
    Reads step declared (textParts? tag text?) start finish := by
  cases text? with
  | none =>
      rw [missing rfl]
      exact reads_nil skips finish
  | some text => exact reads_text skips numbered (read rfl)

theorem reads_textPartsNonempty {tag : Nat} (numbered : IsTag tag) {text : String}
    (missing : text = "" → start = finish)
    (read : ∀ {bytes rest : Bytes}, readText .lengthDelimited bytes = .ok (text, rest) →
      step ⟨tag, .lengthDelimited⟩ start bytes = .ok (finish, rest)) :
    Reads step declared (textPartsNonempty tag text) start finish := by
  unfold textPartsNonempty
  split
  · rename_i empty
    rw [missing (String.isEmpty_iff.1 empty)]
    exact reads_nil skips finish
  · exact reads_text skips numbered read

theorem reads_numberParts? {tag : Nat} (numbered : IsTag tag) {value? : Option Nat}
    (fits : ∀ value, value? = some value → value < 2 ^ 64)
    (missing : value? = none → start = finish)
    (read : ∀ {value : Nat} {bytes rest : Bytes}, value? = some value →
      readNumber .varint bytes = .ok (value, rest) →
        step ⟨tag, .varint⟩ start bytes = .ok (finish, rest)) :
    Reads step declared (numberParts? tag value?) start finish := by
  cases value? with
  | none =>
      rw [missing rfl]
      exact reads_nil skips finish
  | some value => exact reads_number skips numbered (fits value rfl) (read rfl)

theorem reads_boolParts? {tag : Nat} (numbered : IsTag tag) {value? : Option Bool}
    (missing : value? = none → start = finish)
    (read : ∀ {value : Bool} {bytes rest : Bytes}, value? = some value →
      readBool .varint bytes = .ok (value, rest) →
        step ⟨tag, .varint⟩ start bytes = .ok (finish, rest)) :
    Reads step declared (boolParts? tag value?) start finish := by
  have digit (value : Bool) : (if value then 1 else 0) < 2 ^ 64 := by
    cases value <;> decide
  cases value? with
  | none =>
      rw [missing rfl]
      exact reads_nil skips finish
  | some value =>
      refine reads_number skips numbered (digit value) fun number => read rfl ?_
      rw [readBool, number, bind_ok]
      cases value <;> rfl

theorem reads_int64PartsNonzero {tag : Nat} (numbered : IsTag tag) {word : Int64}
    (missing : word = 0 → start = finish)
    (read : ∀ {bytes rest : Bytes}, readInt64 .varint bytes = .ok (word, rest) →
      step ⟨tag, .varint⟩ start bytes = .ok (finish, rest)) :
    Reads step declared (int64PartsNonzero tag word) start finish := by
  unfold int64PartsNonzero
  split
  · rename_i zero
    rw [missing zero]
    exact reads_nil skips finish
  · refine reads_number skips numbered (ofSignedWord_lt word) fun number => read ?_
    rw [readInt64, number, bind_ok]
    dsimp only
    rw [signedWord_ofSignedWord]
    rfl

theorem reads_messageParts? {tag : Nat} (numbered : IsTag tag) {sub : Step β} {inner : List Nat}
    {contents : β → List Part} {first : β} {message? : Option β}
    (within : ∀ message, message? = some message →
      Reads sub inner (contents message) first message)
    (missing : message? = none → start = finish)
    (read : ∀ {message : β} {bytes rest : Bytes}, message? = some message →
      delimited (some sub) first bytes = .ok (message, rest) →
        step ⟨tag, .lengthDelimited⟩ start bytes = .ok (finish, rest)) :
    Reads step declared (messageParts? tag inner contents message?) start finish := by
  cases message? with
  | none =>
      rw [missing rfl]
      exact reads_nil skips finish
  | some message => exact reads_message skips numbered (within message rfl) (read rfl)

/-! ### A field for each element of a list -/

/-- `state` is the message when the given elements have been read. -/
theorem reads_flatMap (state : List β → α) {parts : β → List Part} {elements : List β}
    (one : ∀ done each, each ∈ elements →
      Reads step declared (parts each) (state done) (state (done ++ [each]))) :
    Reads step declared (elements.flatMap parts) (state []) (state elements) := by
  suffices general : ∀ done, Reads step declared (elements.flatMap parts) (state done)
      (state (done ++ elements)) from general []
  induction elements with
  | nil =>
      intro done
      rw [List.append_nil]
      exact reads_nil skips (state done)
  | cons each rest ih =>
      intro done
      have first := one done each List.mem_cons_self
      have later := ih (fun before other member => one before other (List.mem_cons_of_mem _ member))
        (done ++ [each])
      rw [List.append_assoc] at later
      exact first.append later

end

end MethodForge.Wire
