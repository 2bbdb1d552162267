/-
Module: MethodForge.Text.Nearest
Purpose: The floating-point number nearest to a fraction. The number is sought as
  `mantissa * 2 ^ exponent` on the finest grid on which its mantissa has 53 bits, or on the grid of
  the smallest numbers; the quotient is rounded there, and a tie goes to the even mantissa. All
  arithmetic is exact.
Main exports: Magnitude, Magnitude.nearest, Magnitude.ofDecimal, Decimal.positional
-/
import MethodForge.Text.Shortest

namespace MethodForge.Text

/-- The number of bits of a full mantissa. -/
def mantissaBits : Nat := 53

/-- The exponent of the smallest numbers. -/
def leastExponent : Int := -1074

/-- The exponent of the largest numbers. -/
def greatestExponent : Int := 971

/-- The magnitude of a floating-point number, with its shortest decimal. -/
inductive Magnitude where
  | zero
  | finite (decimal : Decimal)
  | infinite
deriving Repr, DecidableEq

/-- The quotient of two numbers, rounded to the nearest; a tie goes to the even one. -/
def roundedQuotient (numerator denominator : Nat) : Nat :=
  let below := numerator / denominator
  let twice := 2 * (numerator % denominator)
  if twice < denominator ∨ (twice = denominator ∧ below % 2 = 0) then below else below + 1

/-- The power of two of the leading bit of `numerator / denominator`. -/
def leadingBit (numerator denominator : Nat) : Int :=
  let guess : Int := (numerator.log2 : Int) - denominator.log2
  let (scaledNumerator, scaledDenominator) := scaled 2 numerator denominator (-guess)
  if scaledNumerator ≥ scaledDenominator then guess else guess - 1

/-- The magnitude nearest to a positive fraction. -/
def Magnitude.nearest (numerator denominator : Nat) : Magnitude :=
  let exponent := max leastExponent (leadingBit numerator denominator - (mantissaBits - 1))
  let (scaledNumerator, scaledDenominator) := scaled 2 numerator denominator (-exponent)
  let mantissa := roundedQuotient scaledNumerator scaledDenominator
  let least := Nat.pow 2 (mantissaBits - 1)
  let (mantissa, exponent) :=
    if mantissa = 2 * least then (least, exponent + 1) else (mantissa, exponent)
  if mantissa = 0 then .zero
  else if exponent > greatestExponent then .infinite
  else
    let number : Binary := ⟨mantissa, exponent, mantissa == least && exponent > leastExponent⟩
    .finite (number.shortest.reduce 20)

/-- The magnitude nearest to a decimal. What is beyond the largest or below the smallest number by
powers of ten is not computed. -/
def Magnitude.ofDecimal (decimal : Decimal) : Magnitude :=
  let point : Int := (Nat.toDigits 10 decimal.digits).length + decimal.exponent
  if decimal.digits = 0 ∨ point < -330 then .zero
  else if point > 310 then .infinite
  else
    let (numerator, denominator) := scaled 10 decimal.digits 1 decimal.exponent
    .nearest numerator denominator

/-- The text of a decimal without an exponent, however long that is. -/
def Decimal.positional (decimal : Decimal) : String :=
  let digits := Nat.toDigits 10 decimal.digits
  let point : Int := digits.length + decimal.exponent
  if 0 ≤ decimal.exponent then
    String.ofList (digits ++ List.replicate decimal.exponent.toNat '0')
  else if 0 < point then
    String.ofList (digits.take point.toNat ++ ['.'] ++ digits.drop point.toNat)
  else
    String.ofList (['0', '.'] ++ List.replicate (-point).toNat '0' ++ digits)

/-- The order of two decimals. -/
def Decimal.order (first second : Decimal) : Ordering :=
  let shared := min first.exponent second.exponent
  compare (first.digits * Nat.pow 10 (first.exponent - shared).toNat)
    (second.digits * Nat.pow 10 (second.exponent - shared).toNat)

/-- The order of two magnitudes. -/
def Magnitude.order : Magnitude → Magnitude → Ordering
  | .zero, .zero => .eq
  | .zero, _ => .lt
  | .finite _, .zero => .gt
  | .finite first, .finite second => first.order second
  | .finite _, .infinite => .lt
  | .infinite, .infinite => .eq
  | .infinite, _ => .gt

end MethodForge.Text
