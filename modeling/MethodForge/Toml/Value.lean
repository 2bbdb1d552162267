/-
Module: MethodForge.Toml.Value
Purpose: The values of a TOML document, and how statements build it. A document is a list of
  statements: a header opens a table, and the assignments under it fill that table. Which tables may
  still be added to depends on how they came about: a table that only a header further down implied
  may get a header of its own, one that dotted keys made may get more dotted keys, and an inline
  table is closed.
Main exports: Value, TableKind, Statement, Document.ofStatements
-/

namespace MethodForge.Toml

/-- A floating-point literal. -/
inductive FloatLiteral where
  | infinite
  | notANumber
  /-- The mantissa times ten to the exponent; the sign does not matter here. -/
  | decimal (mantissa : Nat) (exponent : Int)
deriving Repr, DecidableEq, Inhabited

/-- How a table came about. -/
inductive TableKind where
  /-- By a header of its own. -/
  | header
  /-- By a header of a table inside it. -/
  | implied
  /-- By a dotted key. -/
  | dotted
  /-- In braces. -/
  | closed
deriving Repr, DecidableEq, Inhabited

/-- A value. -/
inductive Value where
  | text (value : String)
  | integer (value : Int)
  | float (literal : FloatLiteral)
  | boolean (value : Bool)
  | dateTime
  | array (elements : List Value)
  | table (kind : TableKind) (entries : List (String × Value))
  /-- An array that headers in double brackets built. -/
  | tables (elements : List (List (String × Value)))
deriving Repr, Inhabited

/-- The entries of a table. -/
abbrev Entries := List (String × Value)

/-- A key and what comes before it in a dotted key. -/
structure KeyPath where
  path : List String
  key : String
deriving Repr, DecidableEq, Inhabited

/-- A statement of a document. -/
inductive Statement where
  /-- A header in single brackets. -/
  | header (place : KeyPath)
  /-- A header in double brackets. -/
  | element (place : KeyPath)
  | assign (place : KeyPath) (value : Value)
deriving Repr, Inhabited

namespace Entries

/-- The value under a key. -/
def find? (entries : Entries) (key : String) : Option Value :=
  entries.lookup key

/-- Replaces the value under a key that is there. -/
def replace (entries : Entries) (key : String) (value : Value) : Entries :=
  entries.map fun entry => if entry.1 == key then (key, value) else entry

/-- Changes the table that is reached along a path. Tables that are missing on the way are made. With
`byKey` the path belongs to a dotted key, which must not lead through a table with a header. -/
def descend (byKey : Bool) (change : TableKind → Entries → Option Entries) :
    List String → TableKind → Entries → Option Entries
  | [], kind, entries => change kind entries
  | key :: path, _, entries =>
      match entries.find? key with
      | none =>
          let kind : TableKind := if byKey then .dotted else .implied
          (descend byKey change path kind []).map fun inner => entries ++ [(key, .table kind inner)]
      | some (.table kind inner) =>
          if kind = .closed ∨ (byKey ∧ kind = .header) then none
          else
            (descend byKey change path kind inner).map fun inner =>
              entries.replace key (.table kind inner)
      | some (.tables elements) =>
          match elements.reverse with
          | [] => none
          | last :: before =>
              (descend byKey change path .header last).map fun last =>
                entries.replace key (.tables (before.reverse ++ [last]))
      | some _ => none

/-- Puts a value under a key. A single key must not add to a table that dotted keys made, nor a
dotted key to one that they did not make. -/
def assign (kind : TableKind) (entries : Entries) (place : KeyPath) (value : Value) :
    Option Entries :=
  let put (kind : TableKind) (entries : Entries) : Option Entries :=
    if (kind == .dotted) == place.path.isEmpty || (entries.find? place.key).isSome then none
    else some (entries ++ [(place.key, value)])
  descend true put place.path kind entries

/-- Carries out assignments one after the other. -/
def assignAll (kind : TableKind) (entries : Entries) : List (KeyPath × Value) → Option Entries
  | [] => some entries
  | (place, value) :: rest => do
      let entries ← entries.assign kind place value
      assignAll kind entries rest

end Entries

/-- The header of a part of a document, if it has one. -/
inductive Heading where
  | top
  | header (place : KeyPath)
  | element (place : KeyPath)
deriving Repr, DecidableEq, Inhabited

/-- A part of a document: a header and the assignments under it. -/
structure Part where
  heading : Heading
  assignments : List (KeyPath × Value)
deriving Repr, Inhabited

/-- Adds a part to the document that the parts before it have built. -/
def addPart (root : Entries) (part : Part) : Option Entries :=
  let fill (entries : Entries) : Option Entries := entries.assignAll .header part.assignments
  match part.heading with
  | .top => fill root
  | .header place =>
      let enter (_ : TableKind) (parent : Entries) : Option Entries :=
        match parent.find? place.key with
        | none => (fill []).map fun inner => parent ++ [(place.key, .table .header inner)]
        | some (.table .implied inner) =>
            (fill inner).map fun inner => parent.replace place.key (.table .header inner)
        | some _ => none
      root.descend false enter place.path .header
  | .element place =>
      let enter (_ : TableKind) (parent : Entries) : Option Entries :=
        match parent.find? place.key with
        | none => (fill []).map fun inner => parent ++ [(place.key, .tables [inner])]
        | some (.tables elements) =>
            (fill []).map fun inner => parent.replace place.key (.tables (elements ++ [inner]))
        | some _ => none
      root.descend false enter place.path .header

/-- The parts that statements form. The assignments before the first header form a part as well. -/
def parts : List Statement → Part × List Part
  | [] => (⟨.top, []⟩, [])
  | statement :: rest =>
      let (first, others) := parts rest
      match statement with
      | .assign place value =>
          ({ first with assignments := (place, value) :: first.assignments }, others)
      | .header place => (⟨.top, []⟩, { first with heading := .header place } :: others)
      | .element place => (⟨.top, []⟩, { first with heading := .element place } :: others)

/-- The document that statements build. -/
def ofStatements (statements : List Statement) : Option Entries :=
  let (first, others) := parts statements
  (first :: others).foldlM addPart []

/-- The table in braces that assignments build. -/
def closedTable (assignments : List (KeyPath × Value)) : Option Value :=
  (Entries.assignAll .closed [] assignments).map (.table .closed)

/-- The middle between the largest double-precision number and the next one that there would be. -/
def overflowBound : Nat := Nat.pow 2 1024 - Nat.pow 2 970

/-- The number of decimal digits of the bound. -/
def overflowDigits : Int := 309

/-- Whether a literal is rounded to infinity: it is not below the bound. The number of digits before
its point decides, unless it is that of the bound. -/
def FloatLiteral.overflows : FloatLiteral → Bool
  | .decimal mantissa exponent =>
      let digits := (Nat.toDigits 10 mantissa).length + exponent
      if mantissa = 0 ∨ digits < overflowDigits then false
      else if digits > overflowDigits then true
      else if exponent ≥ 0 then mantissa * Nat.pow 10 exponent.toNat ≥ overflowBound
      else mantissa ≥ overflowBound * Nat.pow 10 (-exponent).toNat
  | _ => false

mutual

/-- Whether all numbers in a value can be represented, in 128 bits or as doubles. -/
def Value.isRepresentable : Value → Bool
  | .integer value => -(2 ^ 127) ≤ value && value < 2 ^ 128
  | .float literal => !literal.overflows
  | .array elements => allRepresentable elements
  | .table _ entries => entriesRepresentable entries
  | .tables elements => tablesRepresentable elements
  | _ => true

/-- Whether all numbers in some values can be represented. -/
def allRepresentable : List Value → Bool
  | [] => true
  | value :: rest => value.isRepresentable && allRepresentable rest

/-- Whether all numbers in a table can be represented. -/
def entriesRepresentable : List (String × Value) → Bool
  | [] => true
  | (_, value) :: rest => value.isRepresentable && entriesRepresentable rest

/-- Whether all numbers in some tables can be represented. -/
def tablesRepresentable : List (List (String × Value)) → Bool
  | [] => true
  | entries :: rest => entriesRepresentable entries && tablesRepresentable rest

end

end MethodForge.Toml
