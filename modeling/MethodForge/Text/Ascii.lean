/-
Module: MethodForge.Text.Ascii
Purpose: Letters and digits of ASCII, and the numbers that digits stand for. Formats that are written
  in ASCII use these and never the classes of Unicode.
Main exports: isDigit, isLetter, smallLetter, digitValue?, ofDigits, numeral?
-/

namespace MethodForge.Text

/-- Whether a character is a decimal digit. -/
def isDigit (character : Char) : Bool :=
  '0' ≤ character && character ≤ '9'

/-- Whether a character is a letter of either case. -/
def isLetter (character : Char) : Bool :=
  ('a' ≤ character && character ≤ 'z') || ('A' ≤ character && character ≤ 'Z')

/-- The small form of a letter, and any other character as it is. -/
def smallLetter (character : Char) : Char :=
  if 'A' ≤ character ∧ character ≤ 'Z' then Char.ofNat (character.toNat + 32) else character

/-- The value of a digit of a base up to sixteen, in letters of either case. -/
def digitValue? (base : Nat) (character : Char) : Option Nat :=
  let code := character.toNat
  let value? :=
    if 48 ≤ code ∧ code ≤ 57 then some (code - 48)
    else if 65 ≤ code ∧ code ≤ 70 then some (code - 55)
    else if 97 ≤ code ∧ code ≤ 102 then some (code - 87)
    else none
  value?.filter (· < base)

/-- The number with the given digits. -/
def ofDigits (base : Nat) (digits : List Nat) : Nat :=
  digits.foldl (fun number digit => number * base + digit) 0

/-- The number that decimal digits stand for. -/
def numberOf (digits : List Char) : Nat :=
  ofDigits 10 (digits.filterMap (digitValue? 10))

/-- The number that a text of decimal digits stands for, with or without a plus sign. -/
def numeral? (text : List Char) : Option Nat :=
  let digits := match text with
    | '+' :: rest => rest
    | _ => text
  if digits.isEmpty || !digits.all isDigit then none else some (numberOf digits)

end MethodForge.Text
