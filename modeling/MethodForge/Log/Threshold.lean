/-
Module: MethodForge.Log.Threshold
Purpose: Down to which level events are shown. A threshold has a name, in letters of either case, and a
  digit.
Main exports: Threshold, Threshold.ofText?, levelForVerbosity
-/
import MethodForge.Log.Event
import MethodForge.Text.Ascii

namespace MethodForge.Log

/-- The least severe level that is shown. -/
inductive Threshold where
  | off
  | upTo (level : Level)
deriving Repr, DecidableEq, Inhabited

namespace Threshold

/-- All thresholds, in the order of the digits that stand for them. -/
def all : List Threshold :=
  .off :: Level.all.map .upTo

/-- The place of a threshold among them. -/
def rank : Threshold → Nat
  | .off => 0
  | .upTo level => level.rank

/-- The name of a threshold. -/
def name : Threshold → String
  | .off => "off"
  | .upTo level => level.name

/-- The threshold that a text names, by name or by digit. -/
def ofText? (text : List Char) : Option Threshold :=
  match Text.numeral? text with
  | some number => all[number]?
  | none =>
      let small := String.ofList (text.map Text.smallLetter)
      all.find? (·.name == small)

end Threshold

/-- The level after the verbosity has been raised a number of times. -/
def levelForVerbosity (base : String) : Nat → String
  | 0 => base
  | 1 => "debug"
  | _ => "trace"

end MethodForge.Log
