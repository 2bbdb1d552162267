/-
Module: MethodForge.JsonText.Number
Purpose: JSON numbers. No field of a record is a number, so a number is read only to say what was
  found, and its text there shows the value that a machine would hold: a 64-bit integer where it
  fits, and otherwise a floating-point number computed from the first digits that fit into 64 bits
  and a power of ten.
Main exports: readNumber, passNumber
-/
import MethodForge.JsonText.Fault
import MethodForge.Text.Ascii
import MethodForge.Text.Shortest

namespace MethodForge.JsonText

open Text (isDigit)

/-- The value of a decimal digit. -/
def digitValue (character : Char) : Nat :=
  character.toNat - 48

/-- The digits at the start of a text. -/
def leadingDigits (input : List Char) : List Char :=
  input.takeWhile isDigit

/-- What follows the digits at the start of a text. -/
def afterDigits (input : List Char) : List Char :=
  input.dropWhile isDigit

/-- The largest significand. -/
def maxSignificand : Nat := Nat.pow 2 64 - 1

/-- Appends digits to a significand until the next one would not fit. Gives the significand and the
digits that are left. -/
def absorb (significand : Nat) : List Char → Nat × List Char
  | [] => (significand, [])
  | digit :: digits =>
      let next := significand * 10 + digitValue digit
      if next > maxSignificand then (significand, digit :: digits) else absorb next digits

/-- A number in parts: its sign, its significand, and the power of ten that scales it. -/
structure Parts where
  negative : Bool
  significand : Nat
  exponent : Int
deriving Repr, DecidableEq

/-- Divides by `10 ^ 308` until the power that is left is within reach. -/
def scaleDown (value : Float) (exponent : Int) : Nat → Float
  | 0 => value
  | steps + 1 =>
      if exponent ≥ -308 then value / Float.ofScientific 1 false exponent.natAbs
      else if value == 0.0 then value
      else scaleDown (value / 1e308) (exponent + 308) steps

/-- The magnitude of a number in floating point, or nothing where it is too large. -/
def magnitude? (parts : Parts) : Option Float :=
  let value := (UInt64.ofNat parts.significand).toFloat
  if parts.exponent ≥ 0 then
    if parts.exponent ≤ 308 then
      let product := value * Float.ofScientific 1 false parts.exponent.natAbs
      if product.isInf then none else some product
    else if value == 0.0 then some value
    else none
  else some (scaleDown value parts.exponent 8)

/-- The floating-point number that the parts make. -/
def finishFloat (parts : Parts) (rest : List Char) : Parsed (Found × List Char) :=
  match magnitude? parts with
  | some value =>
      .ok (.floatingPoint (Text.floatText (if parts.negative then -value else value)), rest)
  | none => .error (.behind .numberOutOfRange rest)

/-- The largest exponent that is written out. -/
def maxExponent : Nat := Nat.pow 2 31 - 1

/-- An exponent within its bounds. -/
def clampExponent (exponent : Int) : Int :=
  if exponent > maxExponent then maxExponent
  else if exponent < -(maxExponent : Int) - 1 then -(maxExponent : Int) - 1
  else exponent

/-- Appends digits to a written exponent until the next one would not fit. -/
def absorbExponent (exponent : Nat) : List Char → Nat × List Char
  | [] => (exponent, [])
  | digit :: digits =>
      let next := exponent * 10 + digitValue digit
      if next > maxExponent then (exponent, digit :: digits) else absorbExponent next digits

/-- Reads an exponent behind its letter. -/
def readExponent (parts : Parts) (input : List Char) : Parsed (Found × List Char) :=
  let (down, digits) := match input with
    | '+' :: rest => (false, rest)
    | '-' :: rest => (true, rest)
    | rest => (false, rest)
  match digits with
  | [] => .error (.behind .endInValue [])
  | first :: rest =>
      if !isDigit first then .error (.ahead1 .invalidNumber digits)
      else
        match absorbExponent (digitValue first) (leadingDigits rest) with
        | (exponent, []) =>
            let written : Int := if down then -(exponent : Int) else exponent
            finishFloat { parts with exponent := clampExponent (parts.exponent + written) }
              (afterDigits rest)
        | (_, tooMany) =>
            if parts.significand ≠ 0 ∧ !down then
              .error (.behind .numberOutOfRange (tooMany.drop 1 ++ afterDigits rest))
            else finishFloat { parts with significand := 0, exponent := 0 } (afterDigits rest)

/-- Reads what may follow the digits of a floating-point number. -/
def readScale (parts : Parts) (input : List Char) : Parsed (Found × List Char) :=
  match input with
  | 'e' :: rest => readExponent parts rest
  | 'E' :: rest => readExponent parts rest
  | rest => finishFloat parts rest

/-- Reads a fraction behind its point. Digits that no longer fit are passed over. -/
def readFraction (parts : Parts) (input : List Char) : Parsed (Found × List Char) :=
  match leadingDigits input with
  | [] =>
      match input with
      | [] => .error (.behind .endInValue [])
      | _ => .error (.ahead1 .invalidNumber input)
  | digits =>
      let (significand, left) := absorb parts.significand digits
      let taken : Int := (digits.length - left.length : Nat)
      readScale { parts with significand, exponent := parts.exponent - taken } (afterDigits input)

/-- The integer that the parts make, or a floating-point number where it does not fit. -/
def finishInteger (negative : Bool) (significand : Nat) (rest : List Char) :
    Parsed (Found × List Char) :=
  if !negative then .ok (.integer (toString significand), rest)
  else if significand = 0 ∨ significand > Nat.pow 2 63 then finishFloat ⟨true, significand, 0⟩ rest
  else .ok (.integer ("-" ++ toString significand), rest)

/-- Reads what may follow the integer digits of a number whose digits all fit. -/
def readTail (negative : Bool) (significand : Nat) (input : List Char) :
    Parsed (Found × List Char) :=
  match input with
  | '.' :: rest => readFraction ⟨negative, significand, 0⟩ rest
  | 'e' :: rest => readExponent ⟨negative, significand, 0⟩ rest
  | 'E' :: rest => readExponent ⟨negative, significand, 0⟩ rest
  | rest => finishInteger negative significand rest

/-- Reads what may follow the integer digits of a number of which `extra` digits did not fit. -/
def readLongTail (negative : Bool) (significand extra : Nat) (input : List Char) :
    Parsed (Found × List Char) :=
  match input with
  | '.' :: rest => readFraction ⟨negative, significand, extra⟩ rest
  | rest => readScale ⟨negative, significand, extra⟩ rest

/-- Reads a number behind its sign. -/
def readUnsigned (negative : Bool) (input : List Char) : Parsed (Found × List Char) :=
  match input with
  | [] => .error (.behind .endInValue [])
  | '0' :: rest =>
      match rest with
      | [] => readTail negative 0 []
      | next :: _ =>
          if isDigit next then .error (.ahead1 .invalidNumber rest)
          else readTail negative 0 rest
  | first :: _ =>
      if !isDigit first then .error (.ahead1 .invalidNumber input)
      else
        match absorb 0 (leadingDigits input) with
        | (significand, []) => readTail negative significand (afterDigits input)
        | (significand, left) => readLongTail negative significand left.length (afterDigits input)

/-- Reads a number. -/
def readNumber (input : List Char) : Parsed (Found × List Char) :=
  match input with
  | '-' :: rest => readUnsigned true rest
  | rest => readUnsigned false rest

/-- Passes over an exponent behind its letter. -/
def passExponent (input : List Char) : Parsed (List Char) :=
  let digits := match input with
    | '+' :: rest => rest
    | '-' :: rest => rest
    | rest => rest
  match digits with
  | first :: rest => if isDigit first then .ok (afterDigits rest)
      else .error (.ahead1 .invalidNumber digits)
  | [] => .error (.behind .invalidNumber [])

/-- Passes over a possible exponent. -/
def passScale (input : List Char) : Parsed (List Char) :=
  match input with
  | 'e' :: rest => passExponent rest
  | 'E' :: rest => passExponent rest
  | rest => .ok rest

/-- Passes over what may follow the integer digits of a number. -/
def passTail (input : List Char) : Parsed (List Char) :=
  match input with
  | '.' :: rest =>
      if (leadingDigits rest).isEmpty then .error (.ahead1 .invalidNumber rest)
      else passScale (afterDigits rest)
  | rest => passScale rest

/-- Passes over a number behind its sign: only its form is checked. -/
def passUnsigned (input : List Char) : Parsed (List Char) :=
  match input with
  | [] => .error (.behind .invalidNumber [])
  | '0' :: rest =>
      match rest with
      | [] => .ok []
      | next :: _ =>
          if isDigit next then .error (.ahead1 .invalidNumber rest) else passTail rest
  | first :: _ =>
      if isDigit first then passTail (afterDigits input)
      else .error (.ahead1 .invalidNumber input)

/-- Passes over a number. -/
def passNumber (input : List Char) : Parsed (List Char) :=
  match input with
  | '-' :: rest => passUnsigned rest
  | rest => passUnsigned rest

end MethodForge.JsonText
