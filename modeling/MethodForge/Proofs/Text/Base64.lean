/-
Module: MethodForge.Proofs.Text.Base64
Purpose: Base64 reads back every byte sequence that it wrote, and what it writes is safe to put on a
  command line: letters, digits, `+`, `/` and `=`, never a blank.
Main exports: isBase64, solid_encode, decode_encode
-/
import MethodForge.Proofs.Text.Utf8
import MethodForge.Proofs.Text.Words
import MethodForge.Text.Base64

namespace MethodForge.Text.Base64

/-- The bytes of the base64 text of a byte sequence. -/
def textBytes (bytes : Bytes) : Bytes :=
  (encodeChars bytes).map fun character => UInt8.ofNat character.toNat

/-- The byte of the symbol for a value. -/
def symbolByte (value : Nat) : UInt8 :=
  UInt8.ofNat (symbol value).toNat

/-- Whether a character may stand in a base64 text. -/
def isBase64 (character : Char) : Bool :=
  isLetter character || isDigit character || character == '+' || character == '/' ||
    character == '='

theorem value?_symbolByte {value : Nat} (small : value < 64) :
    value? (symbolByte value) = some value := by
  revert value
  decide

theorem symbolByte_ne_pad {value : Nat} (small : value < 64) : symbolByte value ≠ pad := by
  revert value
  decide

theorem isBase64_symbol {value : Nat} (small : value < 64) : isBase64 (symbol value) = true := by
  revert value
  decide

theorem valueAt_symbolByte {value : Nat} (small : value < 64) (offset : Nat) :
    valueAt (symbolByte value) offset = .ok value := by
  simp [valueAt, value?_symbolByte small]

/-- A symbol of the last group is read before those behind it. -/
theorem lastSymbols_symbolByte {value : Nat} (small : value < 64) (start position : Nat)
    (rest : Bytes) :
    lastSymbols start position (symbolByte value :: rest) =
      ((symbolByte value, value) :: ·) <$> lastSymbols start (position + 1) rest := by
  simp only [lastSymbols, symbolByte_ne_pad small, if_false, valueAt_symbolByte small]
  rfl

/-- Three bytes from the values of four symbols. -/
theorem bytes_of_values (first second third : UInt8) :
    UInt8.ofNat (first.toNat / 4 * 4 + (first.toNat % 4 * 16 + second.toNat / 16) / 16) = first ∧
      UInt8.ofNat ((first.toNat % 4 * 16 + second.toNat / 16) % 16 * 16 +
        (second.toNat % 16 * 4 + third.toNat / 64) / 4) = second ∧
      UInt8.ofNat ((second.toNat % 16 * 4 + third.toNat / 64) % 4 * 64 + third.toNat % 64) =
        third := by
  have firstSmall := first.toNat_lt
  have secondSmall := second.toNat_lt
  have thirdSmall := third.toNat_lt
  have firstBits : first.toNat / 4 * 4 + (first.toNat % 4 * 16 + second.toNat / 16) / 16 =
      first.toNat := by omega
  have secondBits : (first.toNat % 4 * 16 + second.toNat / 16) % 16 * 16 +
      (second.toNat % 16 * 4 + third.toNat / 64) / 4 = second.toNat := by omega
  have thirdBits : (second.toNat % 16 * 4 + third.toNat / 64) % 4 * 64 + third.toNat % 64 =
      third.toNat := by omega
  rw [firstBits, secondBits, thirdBits]
  simp

theorem decodeLast_one (first : UInt8) (start : Nat) :
    decodeLast start (textBytes [first]) = .ok [first] := by
  have firstSmall := first.toNat_lt
  have text : textBytes [first] =
      [symbolByte (first.toNat / 4), symbolByte (first.toNat % 4 * 16), pad, pad] := rfl
  have bits : first.toNat / 4 * 4 + first.toNat % 4 * 16 / 16 = first.toNat := by omega
  have padding : lastSymbols start 2 [pad, pad] = .ok [] := by simp [lastSymbols]
  rw [text, decodeLast, lastSymbols_symbolByte (by omega), lastSymbols_symbolByte (by omega),
    padding]
  simp only [lastBytes, bind, Except.bind, Functor.map, Except.map, List.length_cons,
    List.length_nil, bits, Nat.mul_mod_left, ne_eq, not_true_eq_false, if_false, UInt8.ofNat_toNat]

theorem decodeLast_two (first second : UInt8) (start : Nat) :
    decodeLast start (textBytes [first, second]) = .ok [first, second] := by
  have firstSmall := first.toNat_lt
  have secondSmall := second.toNat_lt
  have text : textBytes [first, second] =
      [symbolByte (first.toNat / 4), symbolByte (first.toNat % 4 * 16 + second.toNat / 16),
        symbolByte (second.toNat % 16 * 4), pad] := rfl
  have padding : lastSymbols start 3 [pad] = .ok [] := by simp [lastSymbols]
  have bytes := bytes_of_values first second 0
  rw [text, decodeLast, lastSymbols_symbolByte (by omega), lastSymbols_symbolByte (by omega),
    lastSymbols_symbolByte (by omega), padding]
  simp [lastBytes, bind, Except.bind, Functor.map, Except.map] at bytes ⊢
  exact ⟨bytes.1, bytes.2⟩

theorem decodeLast_three (first second third : UInt8) (start : Nat) :
    decodeLast start (textBytes [first, second, third]) = .ok [first, second, third] := by
  have firstSmall := first.toNat_lt
  have secondSmall := second.toNat_lt
  have thirdSmall := third.toNat_lt
  have text : textBytes [first, second, third] =
      [symbolByte (first.toNat / 4), symbolByte (first.toNat % 4 * 16 + second.toNat / 16),
        symbolByte (second.toNat % 16 * 4 + third.toNat / 64), symbolByte (third.toNat % 64)] := rfl
  have nothing : lastSymbols start 4 [] = .ok [] := rfl
  obtain ⟨firstByte, secondByte, thirdByte⟩ := bytes_of_values first second third
  rw [text, decodeLast, lastSymbols_symbolByte (by omega), lastSymbols_symbolByte (by omega),
    lastSymbols_symbolByte (by omega), lastSymbols_symbolByte (by omega), nothing]
  simp only [lastBytes, bind, Except.bind, Functor.map, Except.map, firstByte, secondByte, thirdByte]

theorem textBytes_cons (first second third : UInt8) (rest : Bytes) :
    textBytes (first :: second :: third :: rest) =
      symbolByte (first.toNat / 4) ::
        symbolByte (first.toNat % 4 * 16 + second.toNat / 16) ::
          symbolByte (second.toNat % 16 * 4 + third.toNat / 64) ::
            symbolByte (third.toNat % 64) :: textBytes rest := by
  simp [textBytes, encodeChars, symbolByte]

theorem length_textBytes_mod (bytes : Bytes) : (textBytes bytes).length % 4 = 0 := by
  induction bytes using encodeChars.induct with
  | case1 => rfl
  | case2 first => simp [textBytes, encodeChars]
  | case3 first second => simp [textBytes, encodeChars]
  | case4 first second third rest ih =>
      rw [textBytes_cons]
      simp only [List.length_cons]
      omega

theorem textBytes_ne_nil (first : UInt8) (rest : Bytes) : textBytes (first :: rest) ≠ [] := by
  rcases rest with _ | ⟨second, _ | ⟨third, rest⟩⟩ <;> simp [textBytes, encodeChars]

/-- The groups of a base64 text spell the bytes that it was written from. -/
theorem decodeFrom_textBytes (bytes : Bytes) (start : Nat) :
    decodeFrom start (textBytes bytes) = .ok bytes := by
  induction bytes using encodeChars.induct generalizing start with
  | case1 => rfl
  | case2 first => exact decodeLast_one first start
  | case3 first second => exact decodeLast_two first second start
  | case4 first second third rest ih =>
      -- The last group has a reader of its own, so it matters whether another one follows.
      cases rest with
      | nil => exact decodeLast_three first second third start
      | cons fourth rest =>
          have firstSmall := first.toNat_lt
          have secondSmall := second.toNat_lt
          have thirdSmall := third.toNat_lt
          obtain ⟨firstByte, secondByte, thirdByte⟩ := bytes_of_values first second third
          obtain ⟨next, more, shape⟩ := List.exists_cons_of_ne_nil (textBytes_ne_nil fourth rest)
          have later := ih (start + 4)
          rw [shape] at later
          rw [textBytes_cons, shape]
          simp only [decodeFrom, valueAt_symbolByte (show first.toNat / 4 < 64 by omega),
            valueAt_symbolByte (show first.toNat % 4 * 16 + second.toNat / 16 < 64 by omega),
            valueAt_symbolByte (show second.toNat % 16 * 4 + third.toNat / 64 < 64 by omega),
            valueAt_symbolByte (show third.toNat % 64 < 64 by omega), later, bind, Except.bind,
            firstByte, secondByte, thirdByte]
          rfl

theorem decode_textBytes (bytes : Bytes) : decode (textBytes bytes) = .ok bytes := by
  have noStray : strayEnd (textBytes bytes) = none := by
    unfold strayEnd
    split
    · rw [if_neg (by have := length_textBytes_mod bytes; omega)]
    · rfl
  rw [decode, noStray]
  exact decodeFrom_textBytes bytes 0

/-- A base64 text holds nothing but letters, digits, `+`, `/` and `=`. -/
theorem isBase64_of_mem_encodeChars {bytes : Bytes} {character : Char}
    (member : character ∈ encodeChars bytes) : isBase64 character = true := by
  induction bytes using encodeChars.induct with
  | case1 => simp [encodeChars] at member
  | case2 first =>
      have firstSmall := first.toNat_lt
      simp only [encodeChars, List.mem_cons, List.not_mem_nil, or_false] at member
      rcases member with rfl | rfl | rfl | rfl
      · exact isBase64_symbol (by omega)
      · exact isBase64_symbol (by omega)
      · decide
      · decide
  | case3 first second =>
      have firstSmall := first.toNat_lt
      have secondSmall := second.toNat_lt
      simp only [encodeChars, List.mem_cons, List.not_mem_nil, or_false] at member
      rcases member with rfl | rfl | rfl | rfl
      · exact isBase64_symbol (by omega)
      · exact isBase64_symbol (by omega)
      · exact isBase64_symbol (by omega)
      · decide
  | case4 first second third rest ih =>
      have firstSmall := first.toNat_lt
      have secondSmall := second.toNat_lt
      have thirdSmall := third.toNat_lt
      simp only [encodeChars, List.mem_cons] at member
      rcases member with rfl | rfl | rfl | rfl | inRest
      · exact isBase64_symbol (by omega)
      · exact isBase64_symbol (by omega)
      · exact isBase64_symbol (by omega)
      · exact isBase64_symbol (by omega)
      · exact ih inRest

/-- The code points that a base64 text is made of. -/
theorem toNat_of_isBase64 {character : Char} (allowed : isBase64 character = true) :
    0x2B ≤ character.toNat ∧ character.toNat ≤ 0x7A := by
  simp only [isBase64, Bool.or_eq_true, beq_iff_eq, isLetter_iff, isDigit_iff] at allowed
  rcases allowed with (((letter | digit) | rfl) | rfl) | rfl
  · omega
  · omega
  · decide
  · decide
  · decide

theorem toNat_lt_of_isBase64 {character : Char} (allowed : isBase64 character = true) :
    character.toNat < 0x80 := by
  have bounds := toNat_of_isBase64 allowed
  omega

theorem isBlank_of_isBase64 {character : Char} (allowed : isBase64 character = true) :
    isBlank character = false := by
  have bounds := toNat_of_isBase64 allowed
  exact isBlank_eq_false_of_toNat (by omega) (by omega)

/-- A base64 text has no blank in it. -/
theorem solid_encode (bytes : Bytes) : Solid (encode bytes) := by
  intro character member
  rw [encode, String.toList_ofList] at member
  exact isBlank_of_isBase64 (isBase64_of_mem_encodeChars member)

/-- Base64 reads back what it wrote. -/
theorem decode_encode (bytes : Bytes) : decode (Utf8.encode (encode bytes)) = .ok bytes := by
  have ascii : Utf8.encode (encode bytes) = textBytes bytes := by
    rw [Utf8.encode, encode, String.toList_ofList, textBytes]
    exact Utf8.encodeChars_of_ascii fun _ member =>
      toNat_lt_of_isBase64 (isBase64_of_mem_encodeChars member)
  rw [ascii, decode_textBytes]

end MethodForge.Text.Base64
