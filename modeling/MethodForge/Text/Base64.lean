/-
Module: MethodForge.Text.Base64
Purpose: Base64 with the standard alphabet and with padding. Writing takes three bytes at a time.
  Reading is strict: the padding must be there, the bits that the last symbol does not need must be
  zero, and nothing else may stand in the text. All groups of four but the last hold symbols only;
  the last one is read by itself, left to right.
Main exports: Base64.encode, Base64.decode, Base64.Defect
-/
import MethodForge.Text.Utf8

namespace MethodForge.Text.Base64

/-- The byte that pads the last group, `=`. -/
def pad : UInt8 := 61

/-- The symbol for a value below 64. -/
def symbol (value : Nat) : Char :=
  if value < 26 then Char.ofNat (65 + value)
  else if value < 52 then Char.ofNat (97 + (value - 26))
  else if value < 62 then Char.ofNat (48 + (value - 52))
  else if value = 62 then '+'
  else '/'

/-- The value of a symbol, if the byte is one. -/
def value? (byte : UInt8) : Option Nat :=
  let code := byte.toNat
  if 65 ≤ code ∧ code ≤ 90 then some (code - 65)
  else if 97 ≤ code ∧ code ≤ 122 then some (code - 97 + 26)
  else if 48 ≤ code ∧ code ≤ 57 then some (code - 48 + 52)
  else if code = 43 then some 62
  else if code = 47 then some 63
  else none

/-- The symbols of a byte sequence. -/
def encodeChars : Bytes → List Char
  | [] => []
  | [first] =>
      [symbol (first.toNat / 4), symbol (first.toNat % 4 * 16), '=', '=']
  | [first, second] =>
      [symbol (first.toNat / 4), symbol (first.toNat % 4 * 16 + second.toNat / 16),
        symbol (second.toNat % 16 * 4), '=']
  | first :: second :: third :: rest =>
      symbol (first.toNat / 4) ::
        symbol (first.toNat % 4 * 16 + second.toNat / 16) ::
          symbol (second.toNat % 16 * 4 + third.toNat / 64) ::
            symbol (third.toNat % 64) :: encodeChars rest

/-- The base64 text of a byte sequence. -/
def encode (bytes : Bytes) : String :=
  String.ofList (encodeChars bytes)

/-- Why a text is not base64. Offsets count bytes of the text. -/
inductive Defect where
  | invalidSymbol (byte : UInt8) (offset : Nat)
  | invalidLength (length : Nat)
  | invalidLastSymbol (byte : UInt8) (offset : Nat)
  | invalidPadding
deriving Repr, DecidableEq

/-- The message of a defect. -/
def Defect.message : Defect → String
  | .invalidSymbol byte offset => s!"Invalid symbol {byte.toNat}, offset {offset}."
  | .invalidLength length => s!"Invalid input length: {length}"
  | .invalidLastSymbol byte offset => s!"Invalid last symbol {byte.toNat}, offset {offset}."
  | .invalidPadding => "Invalid padding"

/-- The value of the symbol that has to stand at an offset. -/
def valueAt (byte : UInt8) (offset : Nat) : Except Defect Nat :=
  match value? byte with
  | some value => .ok value
  | none => .error (.invalidSymbol byte offset)

/-- The symbols of the last group, read left to right before any padding. `position` counts the
bytes of the group already read. -/
def lastSymbols (start position : Nat) : Bytes → Except Defect (List (UInt8 × Nat))
  | [] => .ok []
  | byte :: rest =>
      if byte = pad then
        if position < 2 then .error (.invalidSymbol byte (start + position))
        else if rest.all (· == pad) then .ok []
        else .error (.invalidSymbol pad (start + position))
      else do
        let value ← valueAt byte (start + position)
        let later ← lastSymbols start (position + 1) rest
        return (byte, value) :: later

/-- The bytes that the symbols of the last group spell. `size` is the size of the group with its
padding. -/
def lastBytes (start size : Nat) : List (UInt8 × Nat) → Except Defect Bytes
  | [(_, first), (_, second), (_, third), (_, fourth)] =>
      .ok [UInt8.ofNat (first * 4 + second / 16), UInt8.ofNat (second % 16 * 16 + third / 4),
        UInt8.ofNat (third % 4 * 64 + fourth)]
  | [(_, first), (_, second), (byte, third)] =>
      if size ≠ 4 then .error .invalidPadding
      else if third % 4 ≠ 0 then .error (.invalidLastSymbol byte (start + 2))
      else .ok [UInt8.ofNat (first * 4 + second / 16), UInt8.ofNat (second % 16 * 16 + third / 4)]
  | [(_, first), (byte, second)] =>
      if size ≠ 4 then .error .invalidPadding
      else if second % 16 ≠ 0 then .error (.invalidLastSymbol byte (start + 1))
      else .ok [UInt8.ofNat (first * 4 + second / 16)]
  | short => .error (.invalidLength (start + short.length))

/-- Reads the last group, which starts at `start`. -/
def decodeLast (start : Nat) (group : Bytes) : Except Defect Bytes := do
  let symbols ← lastSymbols start 0 group
  lastBytes start group.length symbols

/-- Reads the groups from `start` on. A group that others follow must hold four symbols. -/
def decodeFrom (start : Nat) : Bytes → Except Defect Bytes
  | first :: second :: third :: fourth :: next :: rest => do
      let first ← valueAt first start
      let second ← valueAt second (start + 1)
      let third ← valueAt third (start + 2)
      let fourth ← valueAt fourth (start + 3)
      let later ← decodeFrom (start + 4) (next :: rest)
      return UInt8.ofNat (first * 4 + second / 16) ::
        UInt8.ofNat (second % 16 * 16 + third / 4) ::
          UInt8.ofNat (third % 4 * 64 + fourth) :: later
  | [] => .ok []
  | last => decodeLast start last

/-- The byte that is reported before all others: one that stands alone behind whole groups and is
neither a symbol nor padding. -/
def strayEnd (text : Bytes) : Option UInt8 :=
  match text.reverse with
  | last :: _ =>
      if text.length % 4 = 1 ∧ last ≠ pad ∧ value? last = none then some last else none
  | [] => none

/-- The bytes that a base64 text, given as bytes itself, spells. -/
def decode (text : Bytes) : Except Defect Bytes :=
  match strayEnd text with
  | some byte => .error (.invalidSymbol byte (text.length - 1))
  | none => decodeFrom 0 text

end MethodForge.Text.Base64
