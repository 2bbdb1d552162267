/-
Module: MethodForge.Text.Blank
Purpose: Blank characters and trimming. A character is blank when it has the Unicode property
  White_Space; the set is small and closed, so it is written out as ranges.
Main exports: inRanges, isBlank, trimEnd, trim
-/

namespace MethodForge.Text

/-- Whether a code point lies in one of the inclusive ranges. -/
def inRanges (ranges : List (Nat × Nat)) (code : Nat) : Bool :=
  ranges.any fun range => range.1 ≤ code && code ≤ range.2

/-- The code points with the property White_Space. -/
def blankRanges : List (Nat × Nat) :=
  [(0x9, 0xD), (0x20, 0x20), (0x85, 0x85), (0xA0, 0xA0), (0x1680, 0x1680), (0x2000, 0x200A),
   (0x2028, 0x2029), (0x202F, 0x202F), (0x205F, 0x205F), (0x3000, 0x3000)]

/-- Whether a character is blank. -/
def isBlank (character : Char) : Bool :=
  inRanges blankRanges character.toNat

/-- Removes the longest run of blanks at the end. -/
def dropEndBlanks (text : List Char) : List Char :=
  (text.reverse.dropWhile isBlank).reverse

/-- Removes the blanks at the end of a text. -/
def trimEnd (text : String) : String :=
  String.ofList (dropEndBlanks text.toList)

/-- Removes the blanks at both ends of a text. -/
def trim (text : String) : String :=
  String.ofList (dropEndBlanks (text.toList.dropWhile isBlank))

end MethodForge.Text
