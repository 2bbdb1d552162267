/-
Module: MethodForge.Toml.Scalar
Purpose: The values of a TOML document that are a single word: numbers, truth values, dates and times.
  A word is read as a whole. Underscores may stand between two digits; a whole number does not start
  with a zero unless it is zero; the seconds of a time may be left out.
Main exports: scalar?
-/
import MethodForge.Text.Ascii
import MethodForge.Toml.Value

namespace MethodForge.Toml

open Text (digitValue? isDigit ofDigits)

/-- The digits of a word, without the underscores between them; none if there is no digit or an
underscore does not stand between two. -/
def digits? (base : Nat) : List Char → Option (List Nat)
  | [] => none
  | character :: rest =>
      match digitValue? base character with
      | none => none
      | some digit =>
          match rest with
          | [] => some [digit]
          | '_' :: rest => (digits? base rest).map (digit :: ·)
          | rest => (digits? base rest).map (digit :: ·)

/-- The digits of a whole number, which has no leading zero. -/
def wholeDigits? (text : List Char) : Option (List Nat) :=
  match digits? 10 text with
  | some (0 :: _ :: _) => none
  | digits => digits

/-- Whether a word has a minus sign, and the rest of it. -/
def splitSign : List Char → Bool × List Char
  | '-' :: rest => (true, rest)
  | '+' :: rest => (false, rest)
  | text => (false, text)

/-- The integer of a word. -/
def integer? (text : List Char) : Option Int :=
  match text with
  | '0' :: 'x' :: rest => (digits? 16 rest).map fun digits => (ofDigits 16 digits : Int)
  | '0' :: 'o' :: rest => (digits? 8 rest).map fun digits => (ofDigits 8 digits : Int)
  | '0' :: 'b' :: rest => (digits? 2 rest).map fun digits => (ofDigits 2 digits : Int)
  | _ =>
      let (negative, rest) := splitSign text
      (wholeDigits? rest).map fun digits =>
        let number : Int := ofDigits 10 digits
        if negative then -number else number

/-- The exponent of a floating-point literal. -/
def exponent? (text : List Char) : Option Int :=
  let (negative, rest) := splitSign text
  (digits? 10 rest).map fun digits =>
    let number : Int := ofDigits 10 digits
    if negative then -number else number

/-- A word split at the first character that is one of the given ones, which is left out. -/
def splitAtFirst (isMark : Char → Bool) (text : List Char) : List Char × Option (List Char) :=
  match text.dropWhile (fun character => !isMark character) with
  | [] => (text, none)
  | _ :: rest => (text.takeWhile (fun character => !isMark character), some rest)

/-- The floating-point literal of a word, which has a fraction, an exponent or both. -/
def float? (text : List Char) : Option FloatLiteral :=
  let (_, text) := splitSign text
  if text = ['i', 'n', 'f'] then some .infinite
  else if text = ['n', 'a', 'n'] then some .notANumber
  else
    let (mantissa, exponentText?) := splitAtFirst (fun mark => mark == 'e' || mark == 'E') text
    let (whole, fractionText?) := splitAtFirst (· == '.') mantissa
    match wholeDigits? whole, fractionText?, exponentText? with
    | none, _, _ => none
    | some _, none, none => none
    | some whole, none, some exponentText =>
        (exponent? exponentText).map (.decimal (ofDigits 10 whole))
    | some whole, some fractionText, none =>
        (digits? 10 fractionText).map fun fraction =>
          .decimal (ofDigits 10 (whole ++ fraction)) (-fraction.length)
    | some whole, some fractionText, some exponentText =>
        match digits? 10 fractionText, exponent? exponentText with
        | some fraction, some exponent =>
            some (.decimal (ofDigits 10 (whole ++ fraction)) (exponent - fraction.length))
        | _, _ => none

/-- The number of two digits. -/
def pair? (first second : Char) : Option Nat :=
  match digitValue? 10 first, digitValue? 10 second with
  | some first, some second => some (first * 10 + second)
  | _, _ => none

/-- The days of a month. -/
def daysOf (year month : Nat) : Nat :=
  if month = 2 then
    if year % 4 = 0 ∧ (year % 100 ≠ 0 ∨ year % 400 = 0) then 29 else 28
  else if month = 4 ∨ month = 6 ∨ month = 9 ∨ month = 11 then 30
  else 31

/-- What follows a date, if a word starts with one. -/
def passDate? : List Char → Option (List Char)
  | a :: b :: c :: d :: '-' :: e :: f :: '-' :: g :: h :: rest =>
      match pair? a b, pair? c d, pair? e f, pair? g h with
      | some century, some years, some month, some day =>
          if 1 ≤ month ∧ month ≤ 12 ∧ 1 ≤ day ∧ day ≤ daysOf (century * 100 + years) month then
            some rest
          else none
      | _, _, _, _ => none
  | _ => none

/-- What follows the fraction of a second, if there is one. -/
def passFraction? : List Char → Option (List Char)
  | '.' :: digit :: rest => if isDigit digit then some (rest.dropWhile isDigit) else none
  | '.' :: [] => none
  | rest => some rest

/-- What follows the seconds of a time, if they are there. -/
def passSeconds? : List Char → Option (List Char)
  | ':' :: a :: b :: rest =>
      match pair? a b with
      | some second => if second ≤ 60 then passFraction? rest else none
      | none => none
  | ':' :: _ => none
  | rest => some rest

/-- What follows a time, if a word starts with one. -/
def passTime? : List Char → Option (List Char)
  | a :: b :: ':' :: c :: d :: rest =>
      match pair? a b, pair? c d with
      | some hour, some minute => if hour ≤ 23 ∧ minute ≤ 59 then passSeconds? rest else none
      | _, _ => none
  | _ => none

/-- Whether a text is the distance of a time zone, or nothing. -/
def isOffset : List Char → Bool
  | [] => true
  | ['Z'] => true
  | ['z'] => true
  | [sign, a, b, ':', c, d] =>
      (sign == '+' || sign == '-') &&
        (match pair? a b, pair? c d with
          | some hour, some minute => hour ≤ 23 && minute ≤ 59
          | _, _ => false)
  | _ => false

/-- Whether a word is a date, a time, or both. -/
def isDateTime (text : List Char) : Bool :=
  match passDate? text with
  | some [] => true
  | some (separator :: rest) =>
      (separator == 'T' || separator == 't' || separator == ' ') &&
        (match passTime? rest with
          | some rest => isOffset rest
          | none => false)
  | none => passTime? text == some []

/-- The value of a word. -/
def scalar? (text : List Char) : Option Value :=
  if text = ['t', 'r', 'u', 'e'] then some (.boolean true)
  else if text = ['f', 'a', 'l', 's', 'e'] then some (.boolean false)
  else if isDateTime text then some .dateTime
  else
    match integer? text with
    | some value => some (.integer value)
    | none => (float? text).map .float

end MethodForge.Toml
