/-
Module: MethodForge.Log.Directive
Purpose: One part of a filter. A directive names a target, a span and a field of it, and a level, and
  each of them can be missing; it is written `target[span{field}]=level`. Blanks around a directive
  are passed over when it is read, but the places found between them are then used in the text with
  the blanks, counted in bytes. So blanks in front shift all parts, and the place of a part can lie
  within a character.
Main exports: Directive, DirectiveFault, Directive.ofText, Directive.text
-/
import MethodForge.Log.FieldTest
import MethodForge.Log.Threshold

namespace MethodForge.Log

/-- What is shown of some parts of a run. -/
structure Directive where
  /-- What the name of the source starts with; without it the directive is for every source. -/
  target? : Option String := none
  /-- The span that an event has to be in. -/
  span? : Option String := none
  /-- What is asked of the fields. -/
  field? : Option FieldTest := none
  threshold : Threshold := .upTo .trace
deriving Repr, DecidableEq

/-- Which end of a part. -/
inductive Edge where
  | start
  | stop
deriving Repr, DecidableEq, Inhabited

/-- An end of a part that lies within a character. -/
structure Cut where
  edge : Edge
  position : Nat
  character : Char
  /-- Where the character starts. -/
  first : Nat
deriving Repr, DecidableEq, Inhabited

/-- The words for a cut. -/
def Cut.message (cut : Cut) : String :=
  let edge := match cut.edge with
    | .start => "start"
    | .stop => "end"
  let shown := String.ofList (Text.quotedChar cut.character)
  let stop := cut.first + cut.character.utf8Size
  s!"{edge} byte index {cut.position} is not a char boundary; it is inside '{shown}' " ++
    s!"(bytes {cut.first}..{stop} of string)"

/-- Why a text is no directive. -/
inductive DirectiveFault where
  | malformed
  /-- The text cannot be taken apart at all. -/
  | cut (cut : Cut)
deriving Repr, DecidableEq, Inhabited

namespace Directive

/-- The characters of a text, with the places of their first bytes. -/
def placed (start : Nat) : List Char → List (Nat × Char)
  | [] => []
  | character :: rest => (start, character) :: placed (start + character.utf8Size) rest

/-- Checks that a place does not lie within a character. -/
def checkEdge (text : List Char) (edge : Edge) (position : Nat) : Except DirectiveFault Unit :=
  let holds (entry : Nat × Char) : Bool :=
    entry.1 < position && position < entry.1 + entry.2.utf8Size
  match (placed 0 text).find? holds with
  | some (first, character) => .error (.cut ⟨edge, position, character, first⟩)
  | none => .ok ()

/-- The part of a text from one place to another. -/
def part (text : List Char) (start stop : Nat) : Except DirectiveFault (List Char) := do
  checkEdge text .start start
  checkEdge text .stop stop
  let inside := (placed 0 text).filter fun entry => start ≤ entry.1 && entry.1 < stop
  return inside.map (·.2)

/-- The part of a text from a place to the end. -/
def partFrom (text : List Char) (start : Nat) : Except DirectiveFault (List Char) := do
  checkEdge text .start start
  return ((placed 0 text).filter fun entry => start ≤ entry.1).map (·.2)

/-- The value, where there is one. -/
def demand {α : Type} : Option α → Except DirectiveFault α
  | some value => .ok value
  | none => .error .malformed

/-- The text of a part that is not empty. -/
def nonempty? (characters : List Char) : Option String :=
  if characters.isEmpty then none else some (String.ofList characters)

/-- What is being read, and where it starts. -/
inductive Place where
  | nothing
  /-- A target, or a level that stands alone. -/
  | head (start : Nat)
  | span (start : Nat)
  | field (start : Nat)
  | fieldEnd
  | spanEnd
  | level (start : Nat)
deriving Repr, DecidableEq, Inhabited

/-- Whether a directive may start with a character. -/
def isStart (character : Char) : Bool :=
  character == '-' || character == ':' || character == '_' ||
    Text.inRanges Text.alphanumericRanges character.toNat

/-- Goes on over a character at a place. -/
def step (text : List Char) (state : Place × Directive) (entry : Nat × Char) :
    Except DirectiveFault (Place × Directive) := do
  let (place, directive) := state
  let (position, character) := entry
  match place with
  | .nothing =>
      if character = '[' then return (.span (position + 1), directive)
      else if isStart character then return (.head position, directive)
      else throw .malformed
  | .head start =>
      if character = '=' ∨ character = '[' then
        let target := String.ofList (← part text start position)
        let next := if character = '=' then Place.level else .span
        return (next (position + 1), { directive with target? := some target })
      else return (place, directive)
  | .span start =>
      if character = ']' then
        let span := String.ofList (← part text start position)
        return (.spanEnd, { directive with span? := some span })
      else if character = '{' then
        let span? := nonempty? (← part text start position)
        return (.field (position + 1), { directive with span? })
      else return (place, directive)
  | .field start =>
      if character = '}' then
        let test ← part text start position
        let field ← demand (if test.isEmpty then none else FieldTest.ofText? test)
        return (.fieldEnd, { directive with field? := some field })
      else return (place, directive)
  | .fieldEnd => if character = ']' then return (.spanEnd, directive) else throw .malformed
  | .spanEnd =>
      if character = '=' then return (.level (position + 1), directive) else throw .malformed
  | .level _ => return (place, directive)

/-- The directive at the end of a text. A head is a level if it is the name of one, and else a
target; without a level all is shown. -/
def finish (text : List Char) (place : Place) (directive : Directive) :
    Except DirectiveFault Directive := do
  match place with
  | .head start =>
      let head ← partFrom text start
      match Threshold.ofText? head with
      | some threshold => return { directive with threshold }
      | none => return { directive with target? := some (String.ofList head) }
  | .level start =>
      let level ← partFrom text start
      if level.isEmpty then return directive
      else return { directive with threshold := ← demand (Threshold.ofText? level) }
  | .spanEnd => return directive
  | _ => throw .malformed

/-- The directive that a text stands for. -/
def ofText (text : List Char) : Except DirectiveFault Directive := do
  let inside := Text.dropEndBlanks (text.dropWhile Text.isBlank)
  let (place, directive) ← (placed 0 inside).foldlM (step text) (.nothing, {})
  finish text place directive

/-- Whether a directive asks for a span or a field. -/
def isScoped (directive : Directive) : Bool :=
  directive.span?.isSome || directive.field?.isSome

/-- The text of a directive. -/
def text (directive : Directive) : String :=
  let field := match directive.field? with
    | some test => "\x7b" ++ test.text ++ "\x7d"
    | none => ""
  let scope := if directive.isScoped then "[" ++ directive.span?.getD "" ++ field ++ "]" else ""
  let mark := if directive.target?.isSome || directive.isScoped then "=" else ""
  directive.target?.getD "" ++ scope ++ mark ++ directive.threshold.name

end Directive

end MethodForge.Log
