/-
Module: MethodForge.Text.Lines
Purpose: A text as a list of lines. Reading accepts both line ends, `\n` and `\r\n`, and does not
  count an end after the last line as the start of another. Writing ends every line with `\n`.
  `tidy` is the last step of every generated Go file: it removes the blanks at the end of each line
  and the empty lines at the end of the file.
Main exports: linesOf, unlines, tidy
-/
import MethodForge.Text.Blank

namespace MethodForge.Text

/-- Removes one carriage return at the end of a line. -/
def dropReturn (line : List Char) : List Char :=
  match line.reverse with
  | '\r' :: before => before.reverse
  | _ => line

/-- The lines that the pieces between line feeds stand for: a carriage return before a line feed
belongs to the line end, and an empty last piece is no line. -/
def linesOfPieces : List (List Char) → List (List Char)
  | [] => []
  | [last] => if last.isEmpty then [] else [last]
  | piece :: next :: rest => dropReturn piece :: linesOfPieces (next :: rest)

/-- The lines of a text. -/
def linesOf (text : String) : List (List Char) :=
  linesOfPieces (text.toList.splitOn '\n')

/-- The text whose lines are the given ones, each ended by a line feed. -/
def unlines (lines : List String) : String :=
  String.join (lines.map (· ++ "\n"))

/-- The lines of a text without the blanks that end them and without the empty lines that end the
text. -/
def tidyLines (text : String) : List (List Char) :=
  (((linesOf text).map dropEndBlanks).reverse.dropWhile List.isEmpty).reverse

/-- Removes the blanks at the end of every line and the empty lines at the end of the text. -/
def tidy (text : String) : String :=
  unlines ((tidyLines text).map String.ofList)

end MethodForge.Text
