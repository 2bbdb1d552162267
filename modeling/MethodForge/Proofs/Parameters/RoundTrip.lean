/-
Module: MethodForge.Proofs.Parameters.RoundTrip
Purpose: The text form of a record is read back as the record. What is written is one of the layouts of
  a record: its members stand in the order of the fields, no field twice, and the ones that were
  left out are read as empty, which is what they are. What may still be refused is a record that
  names only one of service and method.
Main exports: objectText_toJson, ofJson_toJson, decode_encode, decode_encode_of_isWhole, solid_encode
-/
import Mathlib.Data.List.Nodup
import MethodForge.Proofs.JsonText.StringLiteral
import MethodForge.Proofs.Parameters.Layout

namespace MethodForge.Parameters

theorem member_toList (parameters : Parameters) (field : Field) :
    (parameters.member field).toList =
      (JsonText.quote field.key).toList ++
        ':' :: (JsonText.quote (parameters.get field)).toList := by
  simp [member]

/-- The fields of a record that are written. -/
def writtenFields (parameters : Parameters) : List Field :=
  Field.all.filter parameters.isWritten

theorem writtenFields_eq_cons (parameters : Parameters) :
    ∃ later, parameters.writtenFields = .name :: later := by
  exact ⟨_, List.filter_cons_of_pos rfl⟩

theorem nodup_writtenFields (parameters : Parameters) : parameters.writtenFields.Nodup :=
  List.Pairwise.filter _ (show Field.all.Nodup by decide)

/-- The members that are written for a record. -/
def writtenMembers (parameters : Parameters) : Members :=
  parameters.writtenFields.map fun field => (field.key, parameters.get field)

theorem count_writtenMembers_le (parameters : Parameters) (field : Field) :
    (parameters.writtenMembers.map Prod.fst).count field.key ≤ 1 := by
  have keys : parameters.writtenMembers.map Prod.fst = parameters.writtenFields.map Field.key := by
    simp [writtenMembers]
  rw [keys]
  exact List.nodup_iff_count_le_one.1 (parameters.nodup_writtenFields.map Field.key_injective) _

theorem lookup_key (parameters : Parameters) (fields : List Field) (field : Field) :
    (fields.map fun field => (field.key, parameters.get field)).lookup field.key =
      if field ∈ fields then some (parameters.get field) else none := by
  induction fields with
  | nil => rfl
  | cons first fields ih =>
      by_cases same : field = first
      · subst same
        simp
      · have keys : field.key ≠ first.key := fun equal => same (Field.key_injective equal)
        simp [List.lookup_cons, beq_false_of_ne keys, ih, same]

/-- The members that are written hold every field of the record. -/
theorem record_writtenMembers (parameters : Parameters) :
    parameters.writtenMembers.record = parameters := by
  have value (field : Field) :
      (parameters.writtenMembers.lookup field.key).getD "" = parameters.get field := by
    have everyField : field ∈ Field.all := by cases field <;> decide
    rw [writtenMembers, lookup_key, writtenFields]
    by_cases writes : parameters.isWritten field = true
    · rw [if_pos (List.mem_filter.2 ⟨everyField, writes⟩), Option.getD_some]
    · rw [if_neg fun member => writes (List.mem_filter.1 member).2]
      have empty : field ≠ .name ∧ parameters.get field = "" := by
        simpa [isWritten] using writes
      rw [empty.2]
      rfl
  rw [Members.record, funext value]
  rfl

/-! ### The layout of what is written -/

theorem memberText_member (parameters : Parameters) (field : Field) :
    MemberText (field.key, parameters.get field) (parameters.member field).toList := by
  have layout : MemberText (field.key, parameters.get field) _ :=
    .keyed (JsonText.spellsText_quote _) .nil .nil (JsonText.spellsText_quote _)
  rwa [List.nil_append, List.nil_append, ← member_toList] at layout

theorem membersText_commas (parameters : Parameters) (fields : List Field) :
    MembersText false (fields.map fun field => (field.key, parameters.get field))
      (fields.flatMap (fun field => ',' :: (parameters.member field).toList) ++ ['}']) := by
  induction fields with
  | nil => exact .close .nil
  | cons field fields ih =>
      have comma : Separates false [','] := .later .nil .nil
      have layout := MembersText.more comma (memberText_member parameters field) ih
      simpa using layout

/-- The members of a record between its brackets. -/
theorem toJson_toList {parameters : Parameters} {later : List Field}
    (order : parameters.writtenFields = .name :: later) :
    parameters.toJson.toList =
      '{' :: ((parameters.member .name).toList ++
        (later.flatMap (fun field => ',' :: (parameters.member field).toList) ++ ['}'])) := by
  have members : Field.all.filter parameters.isWritten = .name :: later := order
  have separated := Text.intercalate_cons ',' (parameters.member .name).toList
    (later.map fun field => (parameters.member field).toList)
  rw [toJson, members]
  simp [List.flatMap_map, Function.comp_def] at separated ⊢
  rw [separated, List.append_assoc]

/-- The JSON object of a record is a layout of the members that are written. -/
theorem objectText_toJson (parameters : Parameters) :
    ObjectText parameters.writtenMembers parameters.toJson.toList := by
  obtain ⟨later, order⟩ := writtenFields_eq_cons parameters
  rw [toJson_toList order, writtenMembers, order]
  have areMembers := MembersText.more (.first .nil) (memberText_member parameters .name)
    (membersText_commas parameters later)
  simpa using ObjectText.braced .nil areMembers .nil

/-- The JSON object of a record is read as the record. -/
theorem ofJson_toJson (parameters : Parameters) :
    ofJson parameters.toJson.toList = .ok parameters := by
  rw [ofJson_of_distinct parameters.objectText_toJson parameters.count_writtenMembers_le,
    record_writtenMembers]

/-! ### The text form -/

/-- The text form of a record has no blank in it. -/
theorem solid_encode (parameters : Parameters) : Text.Solid parameters.encode :=
  Text.Base64.solid_encode _

/-- The text form of a record is read as the record, unless it names only one of service and
method. -/
theorem decode_encode (parameters : Parameters) :
    decode parameters.encode = parameters.validate.map fun _ => parameters := by
  have none : Text.Blank "" := List.forall_mem_nil _
  have read := decode_wrapped parameters.toJson.toList none none
  rw [ofJson_toJson, String.empty_append, String.append_empty] at read
  exact read

/-- A record that names service and method together or not at all survives its text form. -/
theorem decode_encode_of_isWhole {parameters : Parameters} (whole : parameters.isWhole = true) :
    decode parameters.encode = .ok parameters := by
  rw [decode_encode, validate, if_pos whole]
  rfl

end MethodForge.Parameters
