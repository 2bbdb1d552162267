/-
Module: MethodForge.Text.Lowercase
Purpose: Lower-casing of whole texts by the rules of Unicode. Most letters map one to one. The
  capital I with a dot becomes two characters, and a capital sigma takes its final form where a
  word ends: behind a cased character and not before one, characters that case ignores aside.
Main exports: lowercase
-/
import MethodForge.Text.Blank
import MethodForge.Text.CaseTable

namespace MethodForge.Text

/-- Whether the run covers the code point. -/
def CaseRun.covers (run : CaseRun) (code : Nat) : Bool :=
  run.first ≤ code && code ≤ run.last && (code - run.first) % run.stride == 0

/-- The small letter of a character, or the character itself where it has none of its own. -/
def lowercaseChar (character : Char) : Char :=
  let code := character.toNat
  if code < 0x80 then
    if 0x41 ≤ code && code ≤ 0x5A then Char.ofNat (code + 0x20) else character
  else
    match lowercaseRuns.find? (·.covers code) with
    | some run => Char.ofNat (code + run.shift).toNat
    | none => character

/-- Whether a character is a cased letter. -/
def isCased (character : Char) : Bool :=
  inRanges casedRanges character.toNat

/-- Whether case looks through a character to the one behind it. -/
def isCaseIgnorable (character : Char) : Bool :=
  inRanges caseIgnorableRanges character.toNat

/-- Whether the first character that case does not ignore is cased. -/
def meetsCased (characters : List Char) : Bool :=
  match characters.dropWhile isCaseIgnorable with
  | next :: _ => isCased next
  | [] => false

/-- The small form of one character between those before it, nearest first, and those after it. -/
def lowercaseAt (before : List Char) (character : Char) (after : List Char) : List Char :=
  if character = 'Σ' then
    if meetsCased before && !meetsCased after then ['ς'] else ['σ']
  else if character = 'İ' then
    ['i', '\u0307']
  else
    [lowercaseChar character]

/-- Lower-cases the characters that follow those already passed, nearest first. -/
def lowercaseFrom (before : List Char) : List Char → List Char
  | [] => []
  | character :: after =>
      lowercaseAt before character after ++ lowercaseFrom (character :: before) after

/-- Lower-cases a text. -/
def lowercase (text : String) : String :=
  String.ofList (lowercaseFrom [] text.toList)

end MethodForge.Text
