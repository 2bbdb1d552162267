/-
Module: MethodForge.Text.Shortest
Purpose: The shortest decimal that reads back as a given floating-point number. The number is taken
  apart into `mantissa * 2 ^ exponent`; the reals that round to it form an interval, whose ends
  belong to it when the mantissa is even. For one digit, two digits and so on, the two neighbours
  of the number among the decimals of that many digits are tried, and the first that lies in the
  interval is taken, of two the nearer. All arithmetic is exact.
Main exports: Binary, Decimal, Binary.shortest, Decimal.text, floatText
-/

namespace MethodForge.Text

/-- A positive number `mantissa * 2 ^ exponent`. `narrow` says that its lower neighbour is only half
as far away as its upper one. -/
structure Binary where
  mantissa : Nat
  exponent : Int
  narrow : Bool
deriving Repr, DecidableEq

/-- A decimal `digits * 10 ^ exponent`. -/
structure Decimal where
  digits : Nat
  exponent : Int
deriving Repr, DecidableEq

/-- A fraction scaled by a power of a base. -/
def scaled (base numerator denominator : Nat) (power : Int) : Nat × Nat :=
  if power ≥ 0 then (numerator * Nat.pow base power.toNat, denominator)
  else (numerator, denominator * Nat.pow base (-power).toNat)

/-- The power of ten of the leading digit of `numerator / denominator`. -/
def leadingPower (numerator denominator : Nat) : Int :=
  if numerator ≥ denominator then
    ((Nat.toDigits 10 (numerator / denominator)).length : Int) - 1
  else
    let guess := (Nat.toDigits 10 (denominator / numerator)).length
    if numerator * Nat.pow 10 (guess - 1) ≥ denominator then 1 - (guess : Int) else -(guess : Int)

/-- The decimal on the grid of multiples of `10 ^ power` that lies in the interval of the number and
is nearest to it, if there is one. Four times the mantissa keeps the ends of the interval whole. -/
def Binary.onGrid? (number : Binary) (power : Int) : Option Nat :=
  let (unit, shared) := scaled 2 1 1 (number.exponent - 2)
  let (unit, shared) := scaled 10 unit shared (-power)
  let value := 4 * number.mantissa * unit
  let low := (4 * number.mantissa - (if number.narrow then 1 else 2)) * unit
  let high := (4 * number.mantissa + 2) * unit
  let closed := number.mantissa % 2 == 0
  let holds (candidate : Nat) : Bool :=
    let point := candidate * shared
    candidate > 0 &&
      (if closed then low ≤ point && point ≤ high else low < point && point < high)
  let below := value / shared
  let nearer :=
    if 2 * (value % shared) < shared then below
    else if 2 * (value % shared) > shared then below + 1
    else if below % 2 == 0 then below else below + 1
  let other := if nearer == below then below + 1 else below
  if holds nearer then some nearer else if holds other then some other else none

/-- Tries grids from the coarsest to the finest. -/
def Binary.shortestFrom (number : Binary) (power : Int) : Nat → Decimal
  | 0 => ⟨0, 0⟩
  | count + 1 =>
      match number.onGrid? power with
      | some digits => ⟨digits, power⟩
      | none => number.shortestFrom (power - 1) count

/-- The shortest decimal that reads back as the number. -/
def Binary.shortest (number : Binary) : Decimal :=
  let (numerator, denominator) := scaled 2 number.mantissa 1 number.exponent
  number.shortestFrom (leadingPower numerator denominator) 18

/-- Takes a positive finite number apart. -/
def Binary.ofFloat (number : Float) : Binary :=
  let bits := number.toBits.toNat
  let fraction : Nat := bits % Nat.pow 2 52
  let biased : Nat := bits / Nat.pow 2 52 % Nat.pow 2 11
  if biased = 0 then ⟨fraction, (-1074 : Int), false⟩
  else ⟨Nat.pow 2 52 + fraction, (biased : Int) - 1075, fraction == 0 && biased > 1⟩

/-- The decimal without zeros at the end of its digits. -/
def Decimal.reduce (decimal : Decimal) : Nat → Decimal
  | 0 => decimal
  | steps + 1 =>
      if decimal.digits > 0 ∧ decimal.digits % 10 = 0 then
        Decimal.reduce ⟨decimal.digits / 10, decimal.exponent + 1⟩ steps
      else decimal

/-- The text of a decimal. Numbers from `0.00001` up to below `10 ^ 16` are written positionally
and always show a point; all others show one digit before the point, and an exponent with its
sign. -/
def Decimal.text (decimal : Decimal) : String :=
  let decimal := decimal.reduce 20
  let digits := Nat.toDigits 10 decimal.digits
  let point : Int := digits.length + decimal.exponent
  if 0 ≤ decimal.exponent ∧ point ≤ 16 then
    String.ofList (digits ++ List.replicate decimal.exponent.toNat '0' ++ ['.', '0'])
  else if 0 < point ∧ point ≤ 16 then
    String.ofList (digits.take point.toNat ++ ['.'] ++ digits.drop point.toNat)
  else if -5 < point ∧ point ≤ 0 then
    String.ofList (['0', '.'] ++ List.replicate (-point).toNat '0' ++ digits)
  else
    let exponent := point - 1
    let sign := if exponent < 0 then "-" else "+"
    let tail := if digits.length = 1 then "" else "." ++ String.ofList (digits.drop 1)
    String.ofList (digits.take 1) ++ tail ++ "e" ++ sign ++ toString exponent.natAbs

/-- The text of a finite floating-point number: its sign, then its shortest decimal. -/
def floatText (number : Float) : String :=
  let negative := number.toBits.toNat ≥ Nat.pow 2 63
  let magnitude := number.abs
  let text := if magnitude == 0.0 then "0.0" else (Binary.ofFloat magnitude).shortest.text
  if negative then "-" ++ text else text

end MethodForge.Text
