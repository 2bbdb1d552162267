/-
Module: MethodForge.Log.FieldTest
Purpose: What a directive asks of the fields of a part of a run: that a field is there, or that it has a
  value. The text of a value is read as the first that it can be of a truth value, an integer, a
  floating-point number, and a pattern.
Main exports: FieldValue, FieldTest, FieldTest.ofText?, FieldTest.text, FieldTest.order
-/
import MethodForge.Log.Pattern
import MethodForge.Text.Nearest

namespace MethodForge.Log

/-- What the value of a field is compared with. -/
inductive FieldValue where
  | flag (value : Bool)
  | real (negative : Bool) (magnitude : Text.Magnitude)
  | notANumber
  | natural (value : Nat)
  /-- A number with a minus sign. -/
  | minus (magnitude : Nat)
  | pattern (text : String)
deriving Repr, DecidableEq

namespace FieldValue

/-- The integer that a text stands for, if it has at most 64 bits. -/
def integer? (text : List Char) : Option FieldValue :=
  match text with
  | '-' :: digits =>
      if digits.isEmpty || !digits.all Text.isDigit then none
      else
        let magnitude := Text.numberOf digits
        if magnitude ≤ Nat.pow 2 63 then some (.minus magnitude) else none
  | _ => ((Text.numeral? text).filter (· < Nat.pow 2 64)).map .natural

/-- The digits at the start of a text, and what follows them. -/
def splitDigits (text : List Char) : List Char × List Char :=
  (text.takeWhile Text.isDigit, text.dropWhile Text.isDigit)

/-- The exponent that a text stands for; without a text it is zero. -/
def exponent? (text : List Char) : Option Int :=
  match text with
  | [] => some 0
  | letter :: text =>
      if letter ≠ 'e' ∧ letter ≠ 'E' then none
      else
        match text with
        | '-' :: digits => (Text.numeral? digits).bind fun number =>
            if digits.head? = some '+' then none else some (-(number : Int))
        | _ => (Text.numeral? text).map fun number => (number : Int)

/-- The decimal that a text stands for. It has a digit before its exponent at least. -/
def decimal? (text : List Char) : Option Text.Decimal :=
  let (whole, rest) := splitDigits text
  let (fraction, rest) := match rest with
    | '.' :: rest => splitDigits rest
    | _ => ([], rest)
  if whole.isEmpty && fraction.isEmpty then none
  else (exponent? rest).map fun exponent =>
    ⟨Text.numberOf (whole ++ fraction), exponent - fraction.length⟩

/-- The floating-point number that a text stands for, behind its sign. -/
def unsignedReal? (negative : Bool) (text : List Char) : Option FieldValue :=
  match decimal? text with
  | some decimal => some (.real negative (.ofDecimal decimal))
  | none =>
      let small := String.ofList (text.map Text.smallLetter)
      if small = "nan" then some .notANumber
      else if small = "inf" ∨ small = "infinity" then some (.real negative .infinite)
      else none

/-- The floating-point number that a text stands for. -/
def real? (text : List Char) : Option FieldValue :=
  match text with
  | '-' :: rest => unsignedReal? true rest
  | '+' :: rest => unsignedReal? false rest
  | _ => unsignedReal? false text

/-- The value that a text stands for. -/
def ofText? (text : List Char) : Option FieldValue :=
  if text = "true".toList then some (.flag true)
  else if text = "false".toList then some (.flag false)
  else
    integer? text <|> real? text <|>
      if Pattern.isValid text then some (.pattern (String.ofList text)) else none

/-- The text of a value. -/
def text : FieldValue → String
  | .flag value => if value then "true" else "false"
  | .real negative magnitude =>
      let digits := match magnitude with
        | .zero => "0"
        | .finite decimal => decimal.positional
        | .infinite => "inf"
      if negative then "-" ++ digits else digits
  | .notANumber => "NaN"
  | .natural value => toString value
  | .minus magnitude => if magnitude = 0 then "0" else "-" ++ toString magnitude
  | .pattern text => text

/-- The place of a kind of value among the kinds. -/
def rank : FieldValue → Nat
  | .flag _ => 0
  | .real _ _ => 1
  | .notANumber => 2
  | .natural _ => 3
  | .minus _ => 4
  | .pattern _ => 5

/-- The order of two floating-point numbers. A zero has no sign here. -/
def orderReals (negative : Bool) (magnitude : Text.Magnitude) (otherNegative : Bool)
    (other : Text.Magnitude) : Ordering :=
  match magnitude, other, negative, otherNegative with
  | .zero, .zero, _, _ => .eq
  | _, _, false, false => magnitude.order other
  | _, _, true, true => other.order magnitude
  | _, _, true, false => .lt
  | _, _, false, true => .gt

/-- The order of values: by their kinds, then within a kind. -/
def order (first second : FieldValue) : Ordering :=
  match first, second with
  | .flag value, .flag other => compare value.toNat other.toNat
  | .real negative magnitude, .real otherNegative other =>
      orderReals negative magnitude otherNegative other
  | .natural value, .natural other => compare value other
  | .minus magnitude, .minus other => compare other magnitude
  | .pattern text, .pattern other => compare text other
  | _, _ => compare first.rank second.rank

end FieldValue

/-- What is asked of a field: that it is there, or that it has a value. -/
structure FieldTest where
  name : String
  value? : Option FieldValue
deriving Repr, DecidableEq

namespace FieldTest

/-- The test that a text stands for: a name, and a value behind an equals sign. What follows a second
equals sign does not count. -/
def ofText? (text : List Char) : Option FieldTest :=
  match text.splitOn '=' with
  | [] => none
  | [name] => some ⟨String.ofList name, none⟩
  | name :: value :: _ =>
      (FieldValue.ofText? value).map fun value => ⟨String.ofList name, some value⟩

/-- The text of a test. -/
def text (test : FieldTest) : String :=
  match test.value? with
  | some value => test.name ++ "=" ++ value.text
  | none => test.name

/-- The order of tests: one with a value is the greater, then the names and the values count. -/
def order (first second : FieldTest) : Ordering :=
  match first.value?, second.value? with
  | some _, none => .gt
  | none, some _ => .lt
  | none, none => compare first.name second.name
  | some value, some other => (compare first.name second.name).then (value.order other)

end FieldTest

end MethodForge.Log
