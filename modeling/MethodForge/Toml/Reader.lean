/-
Module: MethodForge.Toml.Reader
Purpose: The text of a TOML document. A reader takes the characters that are left and gives what it
  has read with those behind it, or nothing where the text breaks the rules. Strings come in four
  forms: with escapes or without, and on one line or over several. Arrays and tables in braces may
  run over lines and hold comments. How deep they nest, and how many parts a key has, is limited.
Main exports: read, nestingLimit
-/
import MethodForge.Toml.Scalar

namespace MethodForge.Toml

open Text (digitValue? isDigit isLetter ofDigits)

/-- Whether a character may not stand in a text: a control other than the tab. -/
def isRefused (character : Char) : Bool :=
  (character.toNat < 0x20 && character != '\t') || character.toNat == 0x7F

/-- Whether a character is a blank within a line. -/
def isSpace (character : Char) : Bool :=
  character == ' ' || character == '\t'

/-- The characters from the next one that is no blank. -/
def skipSpaces (input : List Char) : List Char :=
  input.dropWhile isSpace

/-- What follows the end of a line. -/
def passNewline? : List Char → Option (List Char)
  | '\n' :: rest => some rest
  | '\r' :: '\n' :: rest => some rest
  | _ => none

/-- What follows a comment, if there is one. -/
def passComment (input : List Char) : List Char :=
  match input with
  | '#' :: rest => rest.dropWhile fun character => !isRefused character
  | _ => input

/-- What follows blanks, comments and the ends of lines. -/
def skipLines : Nat → List Char → List Char
  | 0, input => input
  | steps + 1, input =>
      let input := passComment (skipSpaces input)
      match passNewline? input with
      | some rest => skipLines steps rest
      | none => input

/-- What follows blanks, comments and the ends of lines. Each line takes a character at least. -/
def skipTrivia (input : List Char) : List Char :=
  skipLines (input.length + 1) input

/-- The character that hexadecimal digits stand for. -/
def hexChar? (text : List Char) : Option Char :=
  let digits := text.map (digitValue? 16)
  if digits.all Option.isSome then
    let code := ofDigits 16 (digits.filterMap id)
    if code < 0xD800 ∨ (0xE000 ≤ code ∧ code < 0x110000) then some (Char.ofNat code) else none
  else none

/-- The character of an escape with the given number of hexadecimal digits. -/
def readHex (count : Nat) (input : List Char) : Option (Char × List Char) :=
  if input.length < count then none
  else (hexChar? (input.take count)).map fun character => (character, input.drop count)

/-- The character of an escape, behind the backslash. -/
def readEscape : List Char → Option (Char × List Char)
  | 'b' :: rest => some ('\x08', rest)
  | 't' :: rest => some ('\t', rest)
  | 'n' :: rest => some ('\n', rest)
  | 'f' :: rest => some ('\x0c', rest)
  | 'r' :: rest => some ('\r', rest)
  | 'e' :: rest => some ('\x1b', rest)
  | '"' :: rest => some ('"', rest)
  | '\\' :: rest => some ('\\', rest)
  | 'x' :: rest => readHex 2 rest
  | 'u' :: rest => readHex 4 rest
  | 'U' :: rest => readHex 8 rest
  | _ => none

/-- Puts a character in front of what a reader gives. -/
def prepend (character : Char) (reading : Option (List Char × List Char)) :
    Option (List Char × List Char) :=
  reading.map fun (characters, rest) => (character :: characters, rest)

/-- A string with escapes, behind its opening quote. Each character takes a step. -/
def readBasic : Nat → List Char → Option (List Char × List Char)
  | 0, _ => none
  | _ + 1, [] => none
  | steps + 1, character :: rest =>
      if character = '"' then some ([], rest)
      else if character = '\\' then do
        let (character, rest) ← readEscape rest
        prepend character (readBasic steps rest)
      else if isRefused character then none
      else prepend character (readBasic steps rest)

/-- A string without escapes, behind its opening quote. -/
def readLiteral : List Char → Option (List Char × List Char)
  | [] => none
  | character :: rest =>
      if character = '\'' then some ([], rest)
      else if isRefused character then none
      else prepend character (readLiteral rest)

/-- The end of a string over several lines: three quotes. Up to two more in front of them belong to
the string. -/
def readClosing (quote : Char) (input : List Char) : Option (List Char × List Char) :=
  let count := min 5 (input.takeWhile (· == quote)).length
  if count < 3 then none else some (List.replicate (count - 3) quote, input.drop count)

/-- What follows blanks and empty lines. -/
def skipEmptyLines : List Char → List Char
  | ' ' :: rest => skipEmptyLines rest
  | '\t' :: rest => skipEmptyLines rest
  | '\n' :: rest => skipEmptyLines rest
  | '\r' :: '\n' :: rest => skipEmptyLines rest
  | input => input

/-- What follows a backslash at the end of a line: the blanks and the empty lines behind it do not
count. -/
def passContinuation? (input : List Char) : Option (List Char) :=
  (passNewline? (skipSpaces input)).map skipEmptyLines

/-- A character of a string over several lines that stands for itself. -/
def readPlain : List Char → Option (List Char × List Char)
  | '\r' :: '\n' :: rest => some (['\r', '\n'], rest)
  | '\n' :: rest => some (['\n'], rest)
  | character :: rest => if isRefused character then none else some ([character], rest)
  | [] => none

/-- What the next characters of a string over several lines stand for. -/
def readLongPiece (escapes : Bool) (input : List Char) : Option (List Char × List Char) :=
  match escapes, input with
  | true, '\\' :: rest =>
      match passContinuation? rest with
      | some rest => some ([], rest)
      | none => (readEscape rest).map fun (character, rest) => ([character], rest)
  | _, _ => readPlain input

/-- A string over several lines, behind its opening quotes. Each character takes a step. -/
def readLong (quote : Char) (escapes : Bool) : Nat → List Char → Option (List Char × List Char)
  | 0, _ => none
  | steps + 1, input =>
      match readClosing quote input with
      | some closing => some closing
      | none => do
          let (characters, rest) ← readLongPiece escapes input
          let (others, rest) ← readLong quote escapes steps rest
          return (characters ++ others, rest)

/-- The end of a line right behind the opening quotes does not count. -/
def dropFirstNewline (input : List Char) : List Char :=
  (passNewline? input).getD input

/-- Takes the characters that a reader gives as a text. -/
def asText (reading : Option (List Char × List Char)) : Option (String × List Char) :=
  reading.map fun (characters, rest) => (String.ofList characters, rest)

/-- A string on one line. -/
def readShort : List Char → Option (String × List Char)
  | '"' :: rest => asText (readBasic (rest.length + 1) rest)
  | '\'' :: rest => asText (readLiteral rest)
  | _ => none

/-- A string in one of its four forms. -/
def readText : List Char → Option (String × List Char)
  | '"' :: '"' :: '"' :: rest =>
      asText (readLong '"' true (rest.length + 1) (dropFirstNewline rest))
  | '\'' :: '\'' :: '\'' :: rest =>
      asText (readLong '\'' false (rest.length + 1) (dropFirstNewline rest))
  | input => readShort input

/-- Whether a character may stand in a key without quotes. -/
def isKeyChar (character : Char) : Bool :=
  isDigit character || isLetter character || character == '_' || character == '-'

/-- A part of a dotted key: a string on one line, or characters that need no quotes. -/
def readKeyPart (input : List Char) : Option (String × List Char) :=
  match readShort input with
  | some part => some part
  | none =>
      let part := input.takeWhile isKeyChar
      if part.isEmpty then none else some (String.ofList part, input.drop part.length)

/-- A dotted key of so many parts at most. -/
def readKeyParts : Nat → List Char → Option (KeyPath × List Char)
  | 0, _ => none
  | parts + 1, input => do
      let (part, rest) ← readKeyPart input
      match skipSpaces rest with
      | '.' :: rest =>
          let (place, rest) ← readKeyParts parts (skipSpaces rest)
          return ({ place with path := part :: place.path }, rest)
      | rest => return (⟨[], part⟩, rest)

/-- How deep arrays and tables in braces nest, and how many parts a key has. -/
def nestingLimit : Nat := 80

/-- A dotted key, and what follows the blanks behind it. -/
def readKey (input : List Char) : Option (KeyPath × List Char) :=
  readKeyParts nestingLimit input

/-- Whether a character is a blank or ends a line. -/
def isGap (character : Char) : Bool :=
  isSpace character || character == '\n' || character == '\r'

/-- Whether a character belongs to a word. -/
def isWordChar (character : Char) : Bool :=
  !(isGap character || character == ',' || character == '[' || character == ']' ||
    character == '\x7b' || character == '\x7d' || character == '#' || character == '=')

/-- A word. A time may follow a date behind one blank. -/
def readWord (input : List Char) : List Char × List Char :=
  let word := input.takeWhile isWordChar
  match passDate? word, input.drop word.length with
  | some [], ' ' :: next :: rest =>
      if isDigit next then
        let time := (next :: rest).takeWhile isWordChar
        (word ++ ' ' :: time, (next :: rest).drop time.length)
      else (word, ' ' :: next :: rest)
  | _, rest => (word, rest)

/-- The elements of an array behind its bracket. Each element takes a character at least. -/
def readElements (readValue : List Char → Option (Value × List Char)) :
    Nat → List Char → Option (List Value × List Char)
  | 0, _ => none
  | steps + 1, input =>
      match skipTrivia input with
      | ']' :: rest => some ([], rest)
      | input => do
          let (value, rest) ← readValue input
          match skipTrivia rest with
          | ']' :: rest => return ([value], rest)
          | ',' :: rest =>
              let (values, rest) ← readElements readValue steps rest
              return (value :: values, rest)
          | _ => none

/-- A key, an equals sign and a value; `skip` passes over what may stand around the equals sign. -/
def readAssignment (skip : List Char → List Char)
    (readValue : List Char → Option (Value × List Char)) (input : List Char) :
    Option ((KeyPath × Value) × List Char) := do
  let (place, rest) ← readKey input
  match skip rest with
  | '=' :: rest =>
      let (value, rest) ← readValue (skip rest)
      return ((place, value), rest)
  | _ => none

/-- The assignments of a table in braces behind its brace. Each takes a character at least. -/
def readMembers (readValue : List Char → Option (Value × List Char)) :
    Nat → List Char → Option (List (KeyPath × Value) × List Char)
  | 0, _ => none
  | steps + 1, input =>
      match skipTrivia input with
      | '}' :: rest => some ([], rest)
      | input => do
          let (assignment, rest) ← readAssignment skipTrivia readValue input
          match skipTrivia rest with
          | '}' :: rest => return ([assignment], rest)
          | ',' :: rest =>
              let (assignments, rest) ← readMembers readValue steps rest
              return (assignment :: assignments, rest)
          | _ => none

/-- A value that holds no others. -/
def readSimple (input : List Char) : Option (Value × List Char) :=
  match input with
  | '"' :: _ => (readText input).map fun (text, rest) => (.text text, rest)
  | '\'' :: _ => (readText input).map fun (text, rest) => (.text text, rest)
  | _ =>
      let (word, rest) := readWord input
      (scalar? word).map fun value => (value, rest)

/-- A value; `inner` reads the values inside it and is missing at the limit of nesting. -/
def readValueWith (inner : Option (List Char → Option (Value × List Char))) (input : List Char) :
    Option (Value × List Char) :=
  match input, inner with
  | '[' :: rest, some inner => do
      let (values, rest) ← readElements inner (rest.length + 1) rest
      return (.array values, rest)
  | '{' :: rest, some inner => do
      let (assignments, rest) ← readMembers inner (rest.length + 1) rest
      return (← closedTable assignments, rest)
  | _, _ => readSimple input

/-- A value with a number of levels of nesting. -/
def readValueAt : Nat → List Char → Option (Value × List Char)
  | 0 => readValueWith none
  | levels + 1 => readValueWith (some (readValueAt levels))

/-- A value. -/
def readValue (input : List Char) : Option (Value × List Char) :=
  readValueAt nestingLimit input

/-- A header behind its brackets, up to and with the brackets that end it. -/
def readHeader (closing : List Char) (input : List Char) : Option (KeyPath × List Char) := do
  let (place, rest) ← readKey (skipSpaces input)
  if closing.isPrefixOf rest then return (place, rest.drop closing.length) else none

/-- A statement. -/
def readStatement (input : List Char) : Option (Statement × List Char) :=
  match input with
  | '[' :: '[' :: rest => do
      let (place, rest) ← readHeader [']', ']'] rest
      return (.element place, rest)
  | '[' :: rest => do
      let (place, rest) ← readHeader [']'] rest
      return (.header place, rest)
  | _ => do
      let ((place, value), rest) ← readAssignment skipSpaces readValue input
      return (.assign place value, rest)

/-- The statements of a document, each on lines of its own. Each takes a character at least. -/
def readStatements : Nat → List Char → Option (List Statement)
  | 0, _ => none
  | steps + 1, input =>
      match skipTrivia input with
      | [] => some []
      | input => do
          let (statement, rest) ← readStatement input
          match passComment (skipSpaces rest) with
          | [] => return [statement]
          | rest => return statement :: (← readStatements steps (← passNewline? rest))

/-- A text without the mark that may stand in front of it. -/
def dropMark : List Char → List Char
  | '\uFEFF' :: rest => rest
  | text => text

/-- The document that a text stands for. -/
def read (text : String) : Option Entries :=
  let input := dropMark text.toList
  (readStatements (input.length + 1) input).bind ofStatements

end MethodForge.Toml
