/-
Module: MethodForge.JsonText.StringLiteral
Purpose: JSON strings, both ways. Writing escapes the quote, the backslash and the controls, and
  leaves every other character as it is. Reading accepts every escape of the format and refuses
  controls, unknown escapes and surrogates that are not paired. A string that nobody wants can be
  passed over: its escapes are checked for their form only.
Main exports: quote, readString, passString
-/
import MethodForge.JsonText.Fault
import MethodForge.Text.Ascii

namespace MethodForge.JsonText

open Text (digitValue?)

/-- The digit for a value below sixteen. -/
def hexDigit (value : Nat) : Char :=
  if value < 10 then Char.ofNat (48 + value) else Char.ofNat (87 + value)

/-- One character of a JSON string. -/
def quoteChar (character : Char) : List Char :=
  let code := character.toNat
  if character = '"' then ['\\', '"']
  else if character = '\\' then ['\\', '\\']
  else if code ≥ 0x20 then [character]
  else if code = 0x8 then ['\\', 'b']
  else if code = 0x9 then ['\\', 't']
  else if code = 0xA then ['\\', 'n']
  else if code = 0xC then ['\\', 'f']
  else if code = 0xD then ['\\', 'r']
  else ['\\', 'u', '0', '0', hexDigit (code / 16), hexDigit (code % 16)]

/-- The characters of a JSON string. -/
def quoteChars (characters : List Char) : List Char :=
  '"' :: (characters.flatMap quoteChar ++ ['"'])

/-- A text as a JSON string. -/
def quote (text : String) : String :=
  String.ofList (quoteChars text.toList)

/-- The value of four hexadecimal digits. -/
def hexUnit? (first second third fourth : Char) : Option Nat :=
  match digitValue? 16 first, digitValue? 16 second, digitValue? 16 third, digitValue? 16 fourth with
  | some first, some second, some third, some fourth =>
      some (((first * 16 + second) * 16 + third) * 16 + fourth)
  | _, _, _, _ => none

/-- The fault of an escape whose four hexadecimal digits are not there. -/
def hexFault (rest : List Char) : Fault :=
  if (Text.Utf8.encodeChars rest).length < 4 then .behind .endInString []
  else ⟨.invalidEscape, rest, 4⟩

/-- The character of a short escape. -/
def shortEscape? (character : Char) : Option Char :=
  if character = '"' then some '"'
  else if character = '\\' then some '\\'
  else if character = '/' then some '/'
  else if character = 'b' then some '\x08'
  else if character = 'f' then some '\x0c'
  else if character = 'n' then some '\n'
  else if character = 'r' then some '\r'
  else if character = 't' then some '\t'
  else none

/-- Whether a unit is the first half of a pair. -/
def isHighSurrogate (unit : Nat) : Bool := 0xD800 ≤ unit && unit ≤ 0xDBFF

/-- Whether a unit is the second half of a pair. -/
def isLowSurrogate (unit : Nat) : Bool := 0xDC00 ≤ unit && unit ≤ 0xDFFF

/-- The character that a pair of units stands for. -/
def ofSurrogates (high low : Nat) : Char :=
  Char.ofNat (0x10000 + (high - 0xD800) * 0x400 + (low - 0xDC00))

/-- Puts a character in front of what a reader gives. -/
def prepend (character : Char) : Parsed (List Char × List Char) → Parsed (List Char × List Char)
  | .ok (characters, rest) => .ok (character :: characters, rest)
  | .error fault => .error fault

/-- Reads the characters of a string behind its opening quote. -/
def readString : List Char → Parsed (List Char × List Char)
  | [] => .error (.behind .endInString [])
  | character :: rest =>
      if character = '"' then .ok ([], rest)
      else if character = '\\' then
        match rest with
        | [] => .error (.behind .endInString [])
        | 'u' :: digits =>
            match digits with
            | a :: b :: c :: d :: rest =>
                match hexUnit? a b c d with
                | none => .error (hexFault (a :: b :: c :: d :: rest))
                | some unit =>
                    if isLowSurrogate unit then .error (.behind .loneLeadingSurrogate rest)
                    else if isHighSurrogate unit then
                      match rest with
                      | '\\' :: 'u' :: a :: b :: c :: d :: rest =>
                          match hexUnit? a b c d with
                          | none => .error (hexFault (a :: b :: c :: d :: rest))
                          | some low =>
                              if isLowSurrogate low then
                                prepend (ofSurrogates unit low) (readString rest)
                              else .error (.behind .loneLeadingSurrogate rest)
                      | '\\' :: 'u' :: short => .error (hexFault short)
                      | ['\\'] => .error (.behind .endInString [])
                      | '\\' :: other => .error (.ahead1 .endOfHexEscape other)
                      | [] => .error (.behind .endInString [])
                      | other => .error (.ahead1 .endOfHexEscape other)
                    else prepend (Char.ofNat unit) (readString rest)
            | short => .error (hexFault short)
        | escape :: rest =>
            match shortEscape? escape with
            | some value => prepend value (readString rest)
            | none => .error (.ahead1 .invalidEscape (escape :: rest))
      else if character.toNat < 0x20 then
        .error (.ahead1 .controlCharacter (character :: rest))
      else prepend character (readString rest)

/-- Passes over the characters of a string behind its opening quote. Here a control is refused before
it is taken. -/
def passString : List Char → Parsed (List Char)
  | [] => .error (.behind .endInString [])
  | character :: rest =>
      if character = '"' then .ok rest
      else if character = '\\' then
        match rest with
        | [] => .error (.behind .endInString [])
        | 'u' :: digits =>
            match digits with
            | a :: b :: c :: d :: rest =>
                match hexUnit? a b c d with
                | none => .error (hexFault (a :: b :: c :: d :: rest))
                | some _ => passString rest
            | short => .error (hexFault short)
        | escape :: rest =>
            match shortEscape? escape with
            | some _ => passString rest
            | none => .error (.ahead1 .invalidEscape (escape :: rest))
      else if character.toNat < 0x20 then
        .error (.behind .controlCharacter (character :: rest))
      else passString rest

end MethodForge.JsonText
