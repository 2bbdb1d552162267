/-
Module: MethodForge.Proofs.Text.Decimal
Purpose: Numbers in decimal. What a number is written with are digits, behind a minus for a negative
  one, and different numbers are written differently.
Main exports: isDigit_of_mem_toDigits, toDigits_injective, toString_int_injective,
  newline_not_mem_toString_int
-/
import Mathlib.Tactic.SplitIfs

namespace MethodForge.Text

theorem toList_toString_int (value : Int) :
    (toString value).toList =
      if 0 ≤ value then Nat.toDigits 10 value.toNat else '-' :: Nat.toDigits 10 (-value).toNat := by
  rw [Int.toString_eq_repr, Int.repr_eq_if]
  split <;> simp [Nat.repr_eq_ofList_toDigits]

theorem isDigit_of_mem_toDigits {digit : Char} {number : Nat}
    (member : digit ∈ Nat.toDigits 10 number) : digit.isDigit = true :=
  Nat.isDigit_of_mem_toDigits (by decide) (by decide) member

theorem toDigits_injective {first second : Nat}
    (same : Nat.toDigits 10 first = Nat.toDigits 10 second) : first = second := by
  have numbers := congrArg (Nat.ofDigitChars 10 · 0) same
  simpa using numbers

/-- Different numbers are written differently. -/
theorem toString_int_injective {first second : Int} (same : toString first = toString second) :
    first = second := by
  have unsigned : ∀ {digits : List Char} {number : Nat}, '-' :: digits ≠ Nat.toDigits 10 number := by
    intro digits number signed
    have minus : ('-' : Char).isDigit = true :=
      isDigit_of_mem_toDigits (signed ▸ List.mem_cons_self)
    exact absurd minus (by decide)
  have characters := congrArg String.toList same
  rw [toList_toString_int, toList_toString_int] at characters
  split_ifs at characters with nonnegative nonnegative' nonnegative'
  · have := toDigits_injective characters
    omega
  · exact absurd characters.symm unsigned
  · exact absurd characters unsigned
  · have := toDigits_injective (List.cons.inj characters).2
    omega

theorem newline_not_mem_toString_int (value : Int) : '\n' ∉ (toString value).toList := by
  have digits : ∀ number : Nat, '\n' ∉ Nat.toDigits 10 number := by
    intro number member
    exact absurd (isDigit_of_mem_toDigits member) (by decide)
  rw [toList_toString_int]
  split_ifs
  · exact digits _
  · simp [digits]

end MethodForge.Text
