/-
Module: MethodForge.JsonText.Fault
Purpose: Where and why a JSON text cannot be read. A reader works on the characters that are left, so
  a fault names the rest of the text at which it arose; the line and the column are worked out once,
  at the end, from the whole text. Columns count bytes.
Main exports: Found, Problem, Fault, Parsed, Fault.message
-/
import MethodForge.Text.Quoted
import MethodForge.Text.Utf8

namespace MethodForge.JsonText

/-- The value that was found where another kind of value was expected. A number is kept as the text
that shows it. -/
inductive Found where
  | null
  | boolean (value : Bool)
  | integer (text : String)
  | floatingPoint (text : String)
  | string (value : String)
  | sequence
  | map
deriving Repr, DecidableEq

/-- The words for a found value. -/
def Found.describe : Found → String
  | .null => "null"
  | .boolean value => s!"boolean `{value}`"
  | .integer text => s!"integer `{text}`"
  | .floatingPoint text => s!"floating point `{text}`"
  | .string value => "string " ++ Text.quoted value
  | .sequence => "sequence"
  | .map => "map"

/-- What is wrong with a JSON text. -/
inductive Problem where
  | endInValue
  | endInObject
  | endInList
  | endInString
  | expectedValue
  | expectedIdentifier
  | expectedColon
  | expectedObjectCommaOrEnd
  | expectedListCommaOrEnd
  | keyMustBeString
  | trailingComma
  | trailingCharacters
  | invalidNumber
  | numberOutOfRange
  | invalidEscape
  | controlCharacter
  | loneLeadingSurrogate
  | endOfHexEscape
  | duplicateField (key : String)
  | wrongType (found : Found) (expected : String)
deriving Repr, DecidableEq

/-- The words for a problem. -/
def Problem.describe : Problem → String
  | .endInValue => "EOF while parsing a value"
  | .endInObject => "EOF while parsing an object"
  | .endInList => "EOF while parsing a list"
  | .endInString => "EOF while parsing a string"
  | .expectedValue => "expected value"
  | .expectedIdentifier => "expected ident"
  | .expectedColon => "expected `:`"
  | .expectedObjectCommaOrEnd => "expected `,` or `\x7d`"
  | .expectedListCommaOrEnd => "expected `,` or `]`"
  | .keyMustBeString => "key must be a string"
  | .trailingComma => "trailing comma"
  | .trailingCharacters => "trailing characters"
  | .invalidNumber => "invalid number"
  | .numberOutOfRange => "number out of range"
  | .invalidEscape => "invalid escape"
  | .controlCharacter => "control character (\\u0000-\\u001F) found while parsing a string"
  | .loneLeadingSurrogate => "lone leading surrogate in hex escape"
  | .endOfHexEscape => "unexpected end of hex escape"
  | .duplicateField key => s!"duplicate field `{key}`"
  | .wrongType found expected => s!"invalid type: {found.describe}, expected {expected}"

/-- A problem and the place at which it arose: the characters that were left, and how many bytes of
them the reader had looked at. -/
structure Fault where
  problem : Problem
  rest : List Char
  ahead : Nat
deriving Repr, DecidableEq

/-- A problem with what has been read: nothing of the rest was looked at. -/
def Fault.behind (problem : Problem) (rest : List Char) : Fault := ⟨problem, rest, 0⟩

/-- A problem with the next byte. -/
def Fault.ahead1 (problem : Problem) (rest : List Char) : Fault := ⟨problem, rest, 1⟩

/-- What parsing gives: a value or a fault. A reader's value comes with the characters behind it. -/
abbrev Parsed := Except Fault

/-- The blanks of JSON. -/
def isJsonBlank (character : Char) : Bool :=
  character == ' ' || character == '\n' || character == '\t' || character == '\r'

/-- The characters from the next one that is no blank. -/
def skipBlanks (input : List Char) : List Char :=
  input.dropWhile isJsonBlank

/-- The line and the column at which `bytes` end: lines end with a line feed, columns count the
bytes since then. -/
def position (bytes : Text.Bytes) : Nat × Nat :=
  (bytes.count 10 + 1, (bytes.reverse.takeWhile (· != 10)).length)

/-- The line and the column of a fault in a text. -/
def Fault.position (fault : Fault) (text : List Char) : Nat × Nat :=
  let bytes := Text.Utf8.encodeChars text
  let left := (Text.Utf8.encodeChars fault.rest).length
  JsonText.position (bytes.take (bytes.length - left + fault.ahead))

/-- The message of a fault in a text. -/
def Fault.message (fault : Fault) (text : List Char) : String :=
  let (line, column) := fault.position text
  s!"{fault.problem.describe} at line {line} column {column}"

end MethodForge.JsonText
