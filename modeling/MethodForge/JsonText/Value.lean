/-
Module: MethodForge.JsonText.Value
Purpose: Two ways to meet a JSON value that is not wanted. `readFound` reads as much of it as it takes
  to say what was found. `passValue` passes over the whole value, checks its form, and keeps the
  brackets that are open in a list, so that no depth is too great for it.
Main exports: expectWord, readFound, expectString, passValue
-/
import MethodForge.JsonText.Number
import MethodForge.JsonText.StringLiteral

namespace MethodForge.JsonText

/-- Passes over the letters of a word. -/
def expectWord : List Char → List Char → Parsed (List Char)
  | [], input => .ok input
  | _ :: _, [] => .error (.behind .endInValue [])
  | letter :: letters, character :: rest =>
      if character = letter then expectWord letters rest
      else .error (.ahead1 .expectedIdentifier (character :: rest))

/-- Says that a word was found whose first letter has been read. -/
def foundWord (found : Found) (letters input : List Char) : Parsed (Found × List Char) :=
  return (found, ← expectWord letters input)

/-- Says what value starts the text. Of a list or an object only the bracket is looked at. -/
def readFound (input : List Char) : Parsed (Found × List Char) :=
  match input with
  | 'n' :: rest => foundWord .null ['u', 'l', 'l'] rest
  | 't' :: rest => foundWord (.boolean true) ['r', 'u', 'e'] rest
  | 'f' :: rest => foundWord (.boolean false) ['a', 'l', 's', 'e'] rest
  | '"' :: rest => do
      let (characters, rest) ← readString rest
      return (.string (String.ofList characters), rest)
  | '[' :: _ => .ok (.sequence, input)
  | '{' :: _ => .ok (.map, input)
  | character :: _ =>
      if character = '-' || Text.isDigit character then readNumber input
      else .error (.ahead1 .expectedValue input)
  | [] => .error (.behind .endInValue [])

/-- The fault of a value of the wrong kind. -/
def wrongType (expected : String) (input : List Char) : Fault :=
  match readFound input with
  | .ok (found, rest) => .behind (.wrongType found expected) rest
  | .error fault => fault

/-- Reads a value that has to be a string, behind any blanks. -/
def expectString (input : List Char) : Parsed (String × List Char) :=
  match skipBlanks input with
  | [] => .error (.behind .endInValue [])
  | '"' :: rest => do
      let (characters, rest) ← readString rest
      return (String.ofList characters, rest)
  | other => .error (wrongType "a string" other)

/-- Passes over the colon between a key and its value. -/
def passColon (input : List Char) : Parsed (List Char) :=
  match skipBlanks input with
  | ':' :: rest => .ok rest
  | [] => .error (.behind .endInObject [])
  | other => .error (.ahead1 .expectedColon other)

/-- An open bracket. -/
inductive Frame where
  | list
  | object
deriving Repr, DecidableEq

/-- The bracket that closes a frame. -/
def Frame.closer : Frame → Char
  | .list => ']'
  | .object => '}'

/-- The fault of a text that ends inside the frame. -/
def Frame.endProblem : Frame → Problem
  | .list => .endInList
  | .object => .endInObject

/-- The problem of a member that neither a comma nor the closing bracket follows. -/
def Frame.commaProblem : Frame → Problem
  | .list => .expectedListCommaOrEnd
  | .object => .expectedObjectCommaOrEnd

/-- Passes over a value that is no list and no object. -/
def passScalar (input : List Char) : Parsed (List Char) :=
  match input with
  | 'n' :: rest => expectWord ['u', 'l', 'l'] rest
  | 't' :: rest => expectWord ['r', 'u', 'e'] rest
  | 'f' :: rest => expectWord ['a', 'l', 's', 'e'] rest
  | '"' :: rest => passString rest
  | character :: _ =>
      if character = '-' || Text.isDigit character then passNumber input
      else .error (.ahead1 .expectedValue input)
  | [] => .error (.behind .endInValue [])

/-- Passes over the key of an object member and its colon. -/
def passKey (input : List Char) : Parsed (List Char) :=
  match skipBlanks input with
  | '"' :: rest => do
      let rest ← passString rest
      passColon rest
  | [] => .error (.behind .endInObject [])
  | other => .error (.ahead1 .keyMustBeString other)

/-- Where a walk through a value stands: before a value, or behind a member or an opening bracket.
`comma` says that a member has been read, so that a comma may follow. -/
inductive Stage where
  | value
  | next (comma : Bool)
deriving Repr, DecidableEq

/-- Passes over the rest of a value whose open brackets are given, the innermost first. Every step
reads a character or moves from one stage to the other, so twice the length of the text is steps
enough. -/
def passFrom : Nat → Stage → List Frame → List Char → Parsed (List Char)
  | 0, _, _, _ => .error (.behind .endInValue [])
  | steps + 1, .value, frames, input =>
      match skipBlanks input with
      | '[' :: rest => passFrom steps (.next false) (.list :: frames) rest
      | '{' :: rest => passFrom steps (.next false) (.object :: frames) rest
      | other => do
          let rest ← passScalar other
          if frames.isEmpty then return rest else passFrom steps (.next true) frames rest
  | _ + 1, .next _, [], input => .ok input
  | steps + 1, .next comma, frame :: frames, input =>
      let member (rest : List Char) : Parsed (List Char) :=
        match frame with
        | .list => passFrom steps .value (frame :: frames) rest
        | .object => do
            let rest ← passKey rest
            passFrom steps .value (frame :: frames) rest
      match skipBlanks input with
      | [] => .error (.behind frame.endProblem [])
      | character :: rest =>
          if character = ',' && comma then member rest
          else if character = frame.closer then passFrom steps (.next true) frames rest
          else if comma then .error (.ahead1 frame.commaProblem (character :: rest))
          else member (character :: rest)

/-- Passes over a value, behind any blanks. -/
def passValue (input : List Char) : Parsed (List Char) :=
  passFrom (2 * input.length + 2) .value [] input

end MethodForge.JsonText
