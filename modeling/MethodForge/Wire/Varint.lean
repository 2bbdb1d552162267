/-
Module: MethodForge.Wire.Varint
Purpose: Numbers in base 128, the lowest digit first; every byte but the last has its top bit set.
  A reader takes ten bytes at most and a number below `2 ^ 64`.
Main exports: varint, readVarint, signedWord, ofSignedWord
-/
import MethodForge.Text.Utf8

namespace MethodForge.Wire

open Text (Bytes)

/-- The digits of a number, at most as many as there are steps. -/
def varintDigits : Nat → Nat → Bytes
  | 0, _ => []
  | steps + 1, value =>
      if value < 128 then [UInt8.ofNat value]
      else UInt8.ofNat (128 + value % 128) :: varintDigits steps (value / 128)

/-- The bytes of a number below `2 ^ 64`. -/
def varint (value : Nat) : Bytes :=
  varintDigits 10 value

/-- Reads a number of at most as many digits as there are steps. The last possible digit can only
be zero or one. -/
def readDigits : Nat → Bytes → Option (Nat × Bytes)
  | 0, _ => none
  | _ + 1, [] => none
  | steps + 1, byte :: rest =>
      if byte.toNat < 128 then
        if steps = 0 ∧ byte.toNat ≥ 2 then none else some (byte.toNat, rest)
      else
        match readDigits steps rest with
        | some (value, rest) => some (byte.toNat % 128 + 128 * value, rest)
        | none => none

/-- Reads a number, and gives the bytes behind it. -/
def readVarint (bytes : Bytes) : Option (Nat × Bytes) :=
  readDigits 10 bytes

/-- The number that stands for a signed word on the wire: its two's complement. -/
def ofSignedWord (word : Int64) : Nat :=
  word.toUInt64.toNat

/-- The signed word that a number on the wire stands for. -/
def signedWord (value : Nat) : Int64 :=
  (UInt64.ofNat value).toInt64

end MethodForge.Wire
