/-
Module: MethodForge.Proofs.Wire.Varint
Purpose: Numbers on the wire. A number has many spellings, because digits of zero may follow the last
  one that counts; each of ten bytes at most is read as the number that it spells, and what is
  written is one of them. The two's complement of a signed word is read back as that word.
Main exports: Spells, IsVarint, readVarint_of_isVarint, isVarint_varint, signedWord_ofSignedWord
-/
import MethodForge.Proofs.Text.Utf8
import MethodForge.Wire.Varint
import Mathlib.Algebra.Group.Nat.Defs

namespace MethodForge.Wire

open Text (Bytes)

/-- The number that bytes spell in base 128: seven bits in each, the lowest first, and the top bit
set in all but the last. -/
inductive Spells : Nat → Bytes → Prop
  | last {byte : UInt8} (small : byte.toNat < 128) : Spells byte.toNat [byte]
  | more {byte : UInt8} {value : Nat} {bytes : Bytes} (large : 128 ≤ byte.toNat)
      (spelled : Spells value bytes) :
      Spells (byte.toNat % 128 + 128 * value) (byte :: bytes)

/-- A number below `2 ^ 64`, spelled in ten bytes at most. It need not be the shortest spelling. -/
structure IsVarint (value : Nat) (bytes : Bytes) : Prop where
  spelled : Spells value bytes
  short : bytes.length ≤ 10
  small : value < 2 ^ 64

theorem Spells.ne_nil {value : Nat} {bytes : Bytes} (spelled : Spells value bytes) : bytes ≠ [] := by
  cases spelled with
  | last => exact List.cons_ne_nil _ _
  | more => exact List.cons_ne_nil _ _

/-! ### Reading -/

/-- The last possible digit has room for one bit, so with `steps + 1` digits every number below
`2 * 128 ^ steps` can be read. -/
theorem readDigits_of_spells {value steps : Nat} {bytes : Bytes} (spelled : Spells value bytes)
    (short : bytes.length ≤ steps + 1) (small : value < 2 * 128 ^ steps) (rest : Bytes) :
    readDigits (steps + 1) (bytes ++ rest) = some (value, rest) := by
  induction spelled generalizing steps with
  | @last byte low =>
      have room : ¬ (steps = 0 ∧ byte.toNat ≥ 2) := by
        rintro ⟨rfl, high⟩
        omega
      simp only [List.cons_append, List.nil_append, readDigits, if_pos low, if_neg room]
  | @more byte value bytes high spelled ih =>
      cases steps with
      | zero =>
          have somewhere := List.length_pos_iff.2 spelled.ne_nil
          simp only [List.length_cons] at short
          omega
      | succ steps =>
          have later := ih (by simpa using short) (by rw [Nat.pow_succ] at small; omega)
          have notLast : ¬ byte.toNat < 128 := Nat.not_lt.2 high
          rw [List.cons_append, readDigits, if_neg notLast, later]

/-- Every spelling of a number is read as that number, and what follows it is left. -/
theorem readVarint_of_isVarint {value : Nat} {bytes : Bytes} (varint : IsVarint value bytes)
    (rest : Bytes) : readVarint (bytes ++ rest) = some (value, rest) :=
  readDigits_of_spells varint.spelled varint.short varint.small rest

/-! ### Writing -/

/-- A number below `128` is its own last digit. -/
theorem spells_last {value : Nat} (small : value < 128) : Spells value [UInt8.ofNat value] := by
  have byte : (UInt8.ofNat value).toNat = value := Text.Utf8.toNat_ofNat_of_lt (by omega)
  have spelled : Spells (UInt8.ofNat value).toNat [UInt8.ofNat value] := Spells.last (by omega)
  rwa [byte] at spelled

/-- With `steps + 1` digits every number below `128 ^ (steps + 1)` is written. -/
theorem varintDigits_spells {steps value : Nat} (small : value < 128 ^ (steps + 1)) :
    Spells value (varintDigits (steps + 1) value) ∧
      (varintDigits (steps + 1) value).length ≤ steps + 1 := by
  induction steps generalizing value with
  | zero =>
      have low : value < 128 := by simpa using small
      rw [varintDigits, if_pos low]
      exact ⟨spells_last low, Nat.le_refl _⟩
  | succ steps ih =>
      rw [varintDigits]
      by_cases low : value < 128
      · rw [if_pos low]
        exact ⟨spells_last low, by simp⟩
      · have quotient : value / 128 < 128 ^ (steps + 1) := by
          rw [Nat.pow_succ] at small
          omega
        obtain ⟨spelled, short⟩ := ih quotient
        have byte : (UInt8.ofNat (128 + value % 128)).toNat = 128 + value % 128 :=
          Text.Utf8.toNat_ofNat_of_lt (by omega)
        have digits : (128 + value % 128) % 128 + 128 * (value / 128) = value := by omega
        have more : Spells _ (UInt8.ofNat (128 + value % 128) :: _) :=
          Spells.more (by omega) spelled
        rw [byte, digits] at more
        rw [if_neg low]
        exact ⟨more, by simpa using short⟩

/-- What is written is a spelling of the number. -/
theorem isVarint_varint {value : Nat} (small : value < 2 ^ 64) : IsVarint value (varint value) := by
  have room : value < 128 ^ (9 + 1) := by omega
  obtain ⟨spelled, short⟩ := varintDigits_spells room
  exact ⟨spelled, short, small⟩

/-! ### Signed words -/

theorem ofSignedWord_lt (word : Int64) : ofSignedWord word < 2 ^ 64 :=
  word.toUInt64.toNat_lt

/-- A signed word is read back from its two's complement. -/
theorem signedWord_ofSignedWord (word : Int64) : signedWord (ofSignedWord word) = word := by
  rw [signedWord, ofSignedWord, UInt64.ofNat_toNat]
  rfl

end MethodForge.Wire
