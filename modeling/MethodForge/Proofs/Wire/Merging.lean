/-
Module: MethodForge.Proofs.Wire.Merging
Purpose: Reading the fields of a message. What one field does to a message is said once; a run over the
  fields is the chain of what they do, and it is what the reader of whole messages follows. A field
  that a message does not declare is passed over and does nothing.
Main exports: mergeField, Merges, mergeFields_of_merges, delimited_of_merges, decodeMessage_of_merges,
  Skips, skips_of_unknown
-/
import MethodForge.Proofs.Wire.Layout

namespace MethodForge.Wire

open Text (Bytes)

variable {α β : Type}

@[simp] theorem bind_ok (value : α) (next : α → Decoded β) :
    ((Except.ok value : Decoded α) >>= next) = next value := rfl

theorem mapValue_of_ok {f : α → β} {read : Decoded (α × Bytes)} {value : α} {rest : Bytes}
    (done : read = .ok (value, rest)) : mapValue f read = .ok (f value, rest) := by
  rw [done]
  rfl

/-- A step that has read its payload puts it into the message. -/
theorem within_mapValue_ok {message field : String} {f : α → β} {read : Decoded (α × Bytes)}
    {value : α} {rest : Bytes} (done : read = .ok (value, rest)) :
    within message field (mapValue f read) = .ok (f value, rest) := by
  rw [mapValue_of_ok done]
  rfl

/-! ### Keys and payloads -/

theorem number_of_isVarint {value : Nat} {bytes : Bytes} (varint : IsVarint value bytes)
    (rest : Bytes) : number (bytes ++ rest) = .ok (value, rest) := by
  rw [number, readVarint_of_isVarint varint]

theorem number_varint {value : Nat} (small : value < 2 ^ 64) (rest : Bytes) :
    number (varint value ++ rest) = .ok (value, rest) :=
  number_of_isVarint (isVarint_varint small) rest

theorem WireType.code_lt (wireType : WireType) : wireType.code < 8 := by
  cases wireType <;> decide

theorem WireType.ofCode?_code (wireType : WireType) : ofCode? wireType.code = some wireType := by
  cases wireType <;> rfl

/-- A key is read back, however its number is spelled. -/
theorem readKey_of_isVarint {tag : Nat} {wireType : WireType} {key : Bytes} (numbered : IsTag tag)
    (keyed : IsVarint (tag * 8 + wireType.code) key) (rest : Bytes) :
    readKey (key ++ rest) = .ok (⟨tag, wireType⟩, rest) := by
  obtain ⟨positive, small⟩ := numbered
  have form := wireType.code_lt
  have fits : ¬ tag * 8 + wireType.code ≥ Nat.pow 2 32 := by
    have limit : Nat.pow 2 32 = 2 ^ 29 * 8 := rfl
    omega
  have remainder : (tag * 8 + wireType.code) % 8 = wireType.code := by omega
  have quotient : (tag * 8 + wireType.code) / 8 = tag := by omega
  have nonzero : ¬ tag = 0 := Nat.pos_iff_ne_zero.1 positive
  have known : Key.ofNumber (tag * 8 + wireType.code) = .ok ⟨tag, wireType⟩ := by
    simp only [Key.ofNumber, if_neg fits, remainder, WireType.ofCode?_code, quotient,
      if_neg nonzero]
  rw [readKey, number_of_isVarint keyed, bind_ok]
  dsimp only
  rw [known]
  rfl

theorem isVarint_writeKey {tag : Nat} {wireType : WireType} (numbered : IsTag tag) :
    IsVarint (tag * 8 + wireType.code) (writeKey tag wireType) := by
  have form := wireType.code_lt
  have small := numbered.2
  exact isVarint_varint (by omega)

theorem writeKey_ne_nil {tag : Nat} {wireType : WireType} (numbered : IsTag tag) :
    writeKey tag wireType ≠ [] :=
  (isVarint_writeKey numbered).spelled.ne_nil

theorem advance_append {count : Nat} {skipped : Bytes} (length : skipped.length = count)
    (rest : Bytes) : advance count (skipped ++ rest) = .ok rest := by
  subst length
  have within : ¬ skipped.length > (skipped ++ rest).length := by simp
  rw [advance, if_neg within, List.drop_left]

/-! ### One field -/

/-- Merges one field, key and all, into a message. -/
def mergeField (step : Step α) (value : α) (bytes : Bytes) : Decoded (α × Bytes) := do
  let (key, rest) ← readKey bytes
  step key value rest

theorem mergeField_of_isVarint {step : Step α} {tag : Nat} {wireType : WireType} {key : Bytes}
    (numbered : IsTag tag) (keyed : IsVarint (tag * 8 + wireType.code) key) (value : α)
    (payload : Bytes) :
    mergeField step value (key ++ payload) = step ⟨tag, wireType⟩ value payload := by
  rw [mergeField, readKey_of_isVarint numbered keyed]
  rfl

theorem mergeField_writeKey {step : Step α} {tag : Nat} {wireType : WireType}
    (numbered : IsTag tag) (value : α) (payload : Bytes) :
    mergeField step value (writeKey tag wireType ++ payload) =
      step ⟨tag, wireType⟩ value payload :=
  mergeField_of_isVarint numbered (isVarint_writeKey numbered) value payload

/-! ### Fields one after the other -/

/-- The fields that the bytes are lead from one state of a message to another. -/
inductive Merges (step : Step α) : α → Bytes → α → Prop
  | nil {value : α} : Merges step value [] value
  | field {value next last : α} {field bytes : Bytes} (nonempty : field ≠ [])
      (read : ∀ rest, mergeField step value (field ++ rest) = .ok (next, rest))
      (later : Merges step next bytes last) : Merges step value (field ++ bytes) last

theorem Merges.append {step : Step α} {value next last : α} {first second : Bytes}
    (before : Merges step value first next) (behind : Merges step next second last) :
    Merges step value (first ++ second) last := by
  induction before with
  | nil => exact behind
  | field nonempty read _ ih =>
      rw [List.append_assoc]
      exact Merges.field nonempty read (ih behind)

theorem Merges.single {step : Step α} {value next : α} {field : Bytes} (nonempty : field ≠ [])
    (read : ∀ rest, mergeField step value (field ++ rest) = .ok (next, rest)) :
    Merges step value field next := by
  rw [← List.append_nil field]
  exact Merges.field nonempty read Merges.nil

theorem mergeFrom_field {step : Step α} {value next : α} {limit steps : Nat} {bytes rest : Bytes}
    (more : bytes.length > limit) (read : mergeField step value bytes = .ok (next, rest)) :
    mergeFrom step limit (steps + 1) value bytes = mergeFrom step limit steps next rest := by
  rw [mergeFrom, if_pos more]
  rw [mergeField] at read
  cases keyed : readKey bytes with
  | error error =>
      rw [keyed] at read
      cases read
  | ok reading =>
      rw [keyed, bind_ok] at read
      rw [bind_ok]
      dsimp only at read ⊢
      rw [read]
      rfl

/-- The reader goes through the fields and stops behind the last one. -/
theorem mergeFrom_of_merges {step : Step α} {value last : α} {bytes : Bytes}
    (run : Merges step value bytes last) {steps : Nat} (enough : bytes.length ≤ steps)
    (rest : Bytes) :
    mergeFrom step rest.length steps value (bytes ++ rest) = .ok (last, rest) := by
  induction run generalizing steps with
  | nil =>
      have done : ¬ ([] ++ rest).length > rest.length := by simp
      cases steps with
      | zero => rfl
      | succ steps =>
          rw [mergeFrom, if_neg done]
          rfl
  | @field value next last field bytes nonempty read later ih =>
      have taken := List.length_pos_iff.2 nonempty
      rw [List.length_append] at enough
      cases steps with
      | zero => omega
      | succ steps =>
          have more : (field ++ (bytes ++ rest)).length > rest.length := by
            simp only [List.length_append]
            omega
          rw [List.append_assoc, mergeFrom_field more (read (bytes ++ rest))]
          exact ih (by omega)

/-- The fields of a message are read as far as the message goes. -/
theorem mergeFields_of_merges {step : Step α} {value last : α} {bytes : Bytes}
    (run : Merges step value bytes last) (rest : Bytes) :
    mergeFields step rest.length value (bytes ++ rest) = .ok (last, rest) := by
  have enough : bytes.length ≤ (bytes ++ rest).length := by simp
  have read := mergeFrom_of_merges run enough rest
  rw [mergeFields, read, bind_ok]
  dsimp only
  rw [if_pos rfl]
  rfl

/-- A message within a message is read by its length. -/
theorem delimited_of_merges {step : Step α} {value last : α} {content : Bytes}
    (small : content.length < 2 ^ 64) (run : Merges step value content last) (rest : Bytes) :
    delimited (some step) value (varint content.length ++ (content ++ rest)) =
      .ok (last, rest) := by
  have within : ¬ content.length > (content ++ rest).length := by simp
  have limit : (content ++ rest).length - content.length = rest.length := by simp
  rw [delimited, number_varint small, bind_ok]
  dsimp only
  rw [if_neg within, limit, mergeFields_of_merges run rest]

/-- A message that is all of the bytes is read. -/
theorem decodeMessage_of_merges {step : Nat → Step α} {start last : α} {bytes : Bytes}
    (run : Merges (step recursionBudget) start bytes last) :
    decodeMessage step start bytes = .ok last := by
  have read := mergeFields_of_merges run []
  rw [List.append_nil, List.length_nil] at read
  rw [decodeMessage, read]
  rfl

/-! ### Fields that are not declared -/

/-- Whether a message passes over every field that it does not declare. -/
def Skips (step : Step α) (declared : List Nat) : Prop :=
  ∀ (tag : Nat) (field : Bytes), IsTag tag → tag ∉ declared → IsField tag field →
    ∀ (value : α) (rest : Bytes), mergeField step value (field ++ rest) = .ok (value, rest)

/-- A field of any form is passed over as long as the budget is not spent. -/
theorem skipField_of_isField (budget : Nat) {tag : Nat} {field : Bytes} (whole : IsField tag field) :
    ∃ (wireType : WireType) (key payload : Bytes), field = key ++ payload ∧
      IsVarint (tag * 8 + wireType.code) key ∧
      ∀ rest, skipField (budget + 1) ⟨tag, wireType⟩ (payload ++ rest) = .ok rest := by
  cases whole with
  | @varint key payload value keyed number =>
      refine ⟨.varint, key, payload, rfl, keyed, fun rest => ?_⟩
      rw [skipField, number_of_isVarint number]
      rfl
  | @sixtyFourBit key payload keyed eight =>
      exact ⟨.sixtyFourBit, key, payload, rfl, keyed, advance_append eight⟩
  | @thirtyTwoBit key payload keyed four =>
      exact ⟨.thirtyTwoBit, key, payload, rfl, keyed, advance_append four⟩
  | @lengthDelimited key length content keyed measured =>
      refine ⟨.lengthDelimited, key, length ++ content, rfl, keyed, fun rest => ?_⟩
      rw [skipField, List.append_assoc, number_of_isVarint measured, bind_ok]
      exact advance_append rfl rest

/-- A step that knows no field of another number passes over all of them. -/
theorem skips_of_unknown {step : Step α} {declared : List Nat} (budget : Nat)
    (passes : ∀ (key : Key) (value : α) (bytes : Bytes), key.tag ∉ declared →
      step key value bytes = unknown (budget + 1) key value bytes) : Skips step declared := by
  intro tag field numbered undeclared whole value rest
  obtain ⟨wireType, key, payload, rfl, keyed, skipped⟩ := skipField_of_isField budget whole
  rw [List.append_assoc, mergeField_of_isVarint numbered keyed,
    passes ⟨tag, wireType⟩ value _ undeclared, unknown, skipped rest]
  rfl

end MethodForge.Wire
