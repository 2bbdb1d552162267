/-
Module: MethodForge.Text.Quoted
Purpose: The quoted form in which messages show a text: double quotes around it, short escapes for
  the common controls, and a code point in braces for every other character that would not be seen
  as itself, be it unprintable or attached to the character before it.
Main exports: isPlain, quoted
-/
import MethodForge.Text.Blank
import MethodForge.Text.PrintableTable

namespace MethodForge.Text

/-- The digits of a number in base sixteen, small letters, without leading zeros. -/
def hexadecimal (number : Nat) : List Char :=
  Nat.toDigits 16 number

/-- Whether a quoted text shows the character as itself. -/
def isPlain (character : Char) : Bool :=
  let code := character.toNat
  if code < 0x7F then
    0x20 ≤ code
  else
    !inRanges graphemeExtendRanges code && !inRanges unprintableRanges code

/-- One character of a quoted text. -/
def quotedChar (character : Char) : List Char :=
  if character = '"' then ['\\', '"']
  else if character = '\\' then ['\\', '\\']
  else if character = '\n' then ['\\', 'n']
  else if character = '\r' then ['\\', 'r']
  else if character = '\t' then ['\\', 't']
  else if character = '\x00' then ['\\', '0']
  else if isPlain character then [character]
  else ['\\', 'u', '{'] ++ hexadecimal character.toNat ++ ['}']

/-- The quoted form of a text. -/
def quoted (text : String) : String :=
  String.ofList ('"' :: text.toList.flatMap quotedChar ++ ['"'])

end MethodForge.Text
