/-
Module: MethodForge.Text.Utf8
Purpose: UTF-8, both ways. Writing is arithmetic on the code point. Reading runs a machine over the
  bytes, one at a time: between characters, or inside one with a known number of bytes still owed
  and a range the next byte must lie in. The first byte out of its range ends a character early,
  and the bytes seen until then are the longest prefix that could have gone on, which is what the
  error reports and what a lossy reading replaces by one character.
Main exports: Bytes, encode, encodeChar, Defect, decode, decodeLossy
-/

namespace MethodForge.Text

/-- A sequence of bytes. -/
abbrev Bytes := List UInt8

namespace Utf8

/-- The bytes of one character. -/
def encodeChar (character : Char) : Bytes :=
  let code := character.toNat
  if code < 0x80 then
    [UInt8.ofNat code]
  else if code < 0x800 then
    [UInt8.ofNat (0xC0 + code / 0x40), UInt8.ofNat (0x80 + code % 0x40)]
  else if code < 0x10000 then
    [UInt8.ofNat (0xE0 + code / 0x1000), UInt8.ofNat (0x80 + code / 0x40 % 0x40),
      UInt8.ofNat (0x80 + code % 0x40)]
  else
    [UInt8.ofNat (0xF0 + code / 0x40000), UInt8.ofNat (0x80 + code / 0x1000 % 0x40),
      UInt8.ofNat (0x80 + code / 0x40 % 0x40), UInt8.ofNat (0x80 + code % 0x40)]

/-- The bytes of a list of characters. -/
def encodeChars (characters : List Char) : Bytes :=
  characters.flatMap encodeChar

/-- The bytes of a text. -/
def encode (text : String) : Bytes :=
  encodeChars text.toList

/-- A character that is being read: bytes seen, bytes owed, the range of the next byte, and the bits
collected so far. -/
structure Pending where
  seen : Nat
  owed : Nat
  low : Nat
  high : Nat
  bits : Nat
deriving Repr, DecidableEq

/-- What the first byte of a character announces. -/
inductive Lead where
  | character (value : Char)
  | pending (state : Pending)
  | stray
deriving Repr, DecidableEq

/-- Reads the first byte of a character. The second byte of some leads has a narrower range, so that
no character has two spellings and no surrogate has one. -/
def lead (byte : UInt8) : Lead :=
  let code := byte.toNat
  if code < 0x80 then .character (Char.ofNat code)
  else if code < 0xC2 then .stray
  else if code < 0xE0 then .pending ⟨1, 1, 0x80, 0xBF, code - 0xC0⟩
  else if code = 0xE0 then .pending ⟨1, 2, 0xA0, 0xBF, 0⟩
  else if code = 0xED then .pending ⟨1, 2, 0x80, 0x9F, 0xD⟩
  else if code < 0xF0 then .pending ⟨1, 2, 0x80, 0xBF, code - 0xE0⟩
  else if code = 0xF0 then .pending ⟨1, 3, 0x90, 0xBF, 0⟩
  else if code < 0xF4 then .pending ⟨1, 3, 0x80, 0xBF, code - 0xF0⟩
  else if code = 0xF4 then .pending ⟨1, 3, 0x80, 0x8F, 4⟩
  else .stray

/-- Whether the next byte continues the character. -/
def Pending.admits (state : Pending) (byte : UInt8) : Bool :=
  state.low ≤ byte.toNat && byte.toNat ≤ state.high

/-- The bits with those of one more byte. -/
def Pending.collect (state : Pending) (byte : UInt8) : Nat :=
  state.bits * 0x40 + byte.toNat % 0x40

/-- The state after one more byte. -/
def Pending.advance (state : Pending) (byte : UInt8) : Pending :=
  ⟨state.seen + 1, state.owed - 1, 0x80, 0xBF, state.collect byte⟩

/-- Why bytes are not UTF-8. -/
inductive Defect where
  /-- The bytes at `index` cannot be continued; `length` of them could have been. -/
  | invalid (length index : Nat)
  /-- The bytes end inside the character that starts at `index`. -/
  | incomplete (index : Nat)
deriving Repr, DecidableEq

/-- The message of a defect. -/
def Defect.message : Defect → String
  | .invalid length index => s!"invalid utf-8 sequence of {length} bytes from index {index}"
  | .incomplete index => s!"incomplete utf-8 byte sequence from index {index}"

/-- Reads the characters from a machine state; `index` is where the current character starts. -/
def decodeFrom (index : Nat) : Option Pending → Bytes → Except Defect (List Char)
  | none, [] => .ok []
  | some _, [] => .error (.incomplete index)
  | none, byte :: rest =>
      match lead byte with
      | .character value => (value :: ·) <$> decodeFrom (index + 1) none rest
      | .pending state => decodeFrom index (some state) rest
      | .stray => .error (.invalid 1 index)
  | some state, byte :: rest =>
      if state.admits byte then
        if state.owed = 1 then
          (Char.ofNat (state.collect byte) :: ·) <$> decodeFrom (index + state.seen + 1) none rest
        else decodeFrom index (some (state.advance byte)) rest
      else .error (.invalid state.seen index)

/-- The characters of a byte sequence. -/
def decodeChars (bytes : Bytes) : Except Defect (List Char) :=
  decodeFrom 0 none bytes

/-- The text that a byte sequence spells. -/
def decode (bytes : Bytes) : Except Defect String :=
  String.ofList <$> decodeChars bytes

/-- The character shown in place of bytes that are not UTF-8. -/
def replacement : Char := '\uFFFD'

/-- Reads the characters from a machine state, with one replacement character for each sequence
that cannot be continued. -/
def lossyFrom : Option Pending → Bytes → List Char
  | none, [] => []
  | some _, [] => [replacement]
  | none, byte :: rest =>
      match lead byte with
      | .character value => value :: lossyFrom none rest
      | .pending state => lossyFrom (some state) rest
      | .stray => replacement :: lossyFrom none rest
  | some state, byte :: rest =>
      if state.admits byte then
        if state.owed = 1 then Char.ofNat (state.collect byte) :: lossyFrom none rest
        else lossyFrom (some (state.advance byte)) rest
      else
        match lead byte with
        | .character value => replacement :: value :: lossyFrom none rest
        | .pending next => replacement :: lossyFrom (some next) rest
        | .stray => replacement :: replacement :: lossyFrom none rest

/-- The text of a byte sequence, with replacement characters where it is not UTF-8. -/
def decodeLossy (bytes : Bytes) : String :=
  String.ofList (lossyFrom none bytes)

end Utf8

end MethodForge.Text
