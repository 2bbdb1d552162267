/-
Module: MethodForge.Proofs.Parameters.TextForm
Purpose: The text form says all that a record holds. JSON, UTF-8 and base64 can each be undone, so two
  records with one text form are the same record, also where reading refuses them because they name
  only one of service and method. A record that was read names both or neither, and so it survives
  being written and read once more.
Main exports: toJson_injective, encode_injective, isWhole_of_decode, text_form_round_trip
-/
import MethodForge.Proofs.Parameters.RoundTrip

namespace MethodForge

/-! ### Layers that can be undone -/

theorem Text.Utf8.encode_injective : Function.Injective Text.Utf8.encode := by
  intro first second same
  have read := Text.Utf8.decodeChars_encodeChars first.toList
  rw [show Text.Utf8.encodeChars first.toList = Text.Utf8.encodeChars second.toList from same,
    Text.Utf8.decodeChars_encodeChars] at read
  exact String.toList_inj.1 (Except.ok.inj read).symm

theorem Text.Base64.encode_injective : Function.Injective Text.Base64.encode := by
  intro first second same
  have read := Text.Base64.decode_encode first
  rw [same, Text.Base64.decode_encode] at read
  exact (Except.ok.inj read).symm

namespace Parameters

theorem toJson_injective : Function.Injective toJson := by
  intro first second same
  have read := ofJson_toJson first
  rw [same, ofJson_toJson] at read
  exact (Except.ok.inj read).symm

/-- No two records have the same text form, whether or not they can be read. -/
theorem encode_injective : Function.Injective encode := by
  intro first second same
  apply toJson_injective
  apply Text.Utf8.encode_injective
  exact Text.Base64.encode_injective same

/-- Only letters, digits, `+`, `/` and `=` stand in a text form. -/
theorem isAlphanum_or_of_mem_encode {parameters : Parameters} {character : Char}
    (member : character ∈ parameters.encode.toList) :
    character.isAlphanum = true ∨ character ∈ ['+', '/', '='] := by
  rw [encode, Text.Base64.encode, String.toList_ofList] at member
  have allowed := Text.Base64.isBase64_of_mem_encodeChars member
  simp only [Text.Base64.isBase64, Bool.or_eq_true, beq_iff_eq, or_assoc] at allowed
  rcases allowed with letter | digit | sign
  · left
    delta Char.isAlphanum Char.isAlpha Char.isUpper Char.isLower
    simp [Text.isLetter, Char.le_def] at letter ⊢
    left
    exact letter.symm
  · left
    delta Char.isAlphanum Char.isDigit
    simp [Text.isDigit, Char.le_def] at digit ⊢
    right
    exact digit
  · right
    simpa using sign

/-! ### Records that were read -/

/-- A record that was read names service and method together or not at all. -/
theorem isWhole_of_decode {text : String} {parameters : Parameters}
    (read : decode text = .ok parameters) : parameters.isWhole = true := by
  obtain ⟨bytes, -, read⟩ := Fallible.bind_eq_ok_iff.1 read
  obtain ⟨characters, -, read⟩ := Fallible.bind_eq_ok_iff.1 read
  obtain ⟨found, -, read⟩ := Fallible.bind_eq_ok_iff.1 read
  obtain ⟨passed, valid, read⟩ := Fallible.bind_eq_ok_iff.1 read
  cases read
  unfold validate at valid
  split at valid
  · assumption
  · cases valid

/-- A text form is safe on a command line and is read as its record, or refused for the names that
only one half was given of; no two records share it; and a record that was read from any text is
read again from its own text form. -/
theorem text_form_round_trip :
    (∀ parameters : Parameters,
      (∀ character ∈ parameters.encode.toList,
          character.isAlphanum = true ∨ character ∈ ['+', '/', '=']) ∧
        decode parameters.encode =
          if parameters.service = "" ↔ parameters.method = "" then .ok parameters
          else .error (.partialTarget parameters.service parameters.method)) ∧
      Function.Injective encode ∧
      ∀ (text : String) (parameters : Parameters),
        decode text = .ok parameters → decode parameters.encode = .ok parameters := by
  refine ⟨?_, encode_injective, ?_⟩
  · intro parameters
    constructor
    · intro character member
      exact isAlphanum_or_of_mem_encode member
    · rw [decode_encode, validate]
      by_cases whole : parameters.isWhole = true
      · rw [if_pos whole, if_pos ((isWhole_iff parameters).1 whole)]
        rfl
      · rw [if_neg whole, if_neg fun both => whole ((isWhole_iff parameters).2 both)]
        rfl
  · intro text parameters read
    exact decode_encode_of_isWhole (isWhole_of_decode read)

/-- A record that is read from a list, with blanks around its text, is read from its own text form
as well. -/
theorem text_form_round_trip_of_list :
    decode "\t WyJhIl0= \n" = .ok { name := "a" } ∧
      decode (encode { name := "a" }) = .ok { name := "a" } := by
  have read : decode "\t WyJhIl0= \n" = .ok { name := "a" } := by decide +kernel
  exact ⟨read, text_form_round_trip.2.2 _ _ read⟩

end Parameters

end MethodForge
