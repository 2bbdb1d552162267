/-
Module: MethodForge.Log.Pattern
Purpose: Which texts are patterns that the value of a field can be compared with. A pattern is a regular
  expression that is turned into a table over bytes, without the tables of Unicode. So what needs
  them is refused: classes of digits, blanks and words, the ends of words, and letters of either
  case, unless the pattern switches from characters to bytes. Bytes, on their part, must stay within
  ASCII. Groups and classes nest up to a limit.
Main exports: Pattern.isValid, Pattern.nestingLimit
-/
import MethodForge.Text.AlphanumericTable
import MethodForge.Text.Ascii
import MethodForge.Text.Blank

namespace MethodForge.Log.Pattern

/-- What is switched on at a place of a pattern. -/
structure Mode where
  /-- Whether blanks and comments do not count. -/
  spaced : Bool := false
  /-- Whether letters stand for both of their cases. -/
  anyCase : Bool := false
  /-- Whether a pattern is about characters and not about bytes. -/
  unicode : Bool := true
deriving Repr, DecidableEq, Inhabited

namespace Mode

/-- The letters of the switches. -/
def switches : List Char :=
  ['i', 'm', 's', 'U', 'u', 'R', 'x']

/-- Turns a switch. Most switches say how a pattern is searched for, and do not count here. -/
def turn (mode : Mode) (switch : Char) (value : Bool) : Mode :=
  if switch = 'x' then { mode with spaced := value }
  else if switch = 'i' then { mode with anyCase := value }
  else if switch = 'u' then { mode with unicode := value }
  else mode

/-- Whether characters may stand for themselves. -/
def allowsCharacters (mode : Mode) : Bool :=
  !(mode.unicode && mode.anyCase)

/-- Whether a character may stand in a class. -/
def allowsInClass (mode : Mode) (character : Char) : Bool :=
  mode.allowsCharacters && (mode.unicode || character.toNat < 0x80)

/-- What follows blanks and comments. Each blank and each comment takes a step. -/
def skipFrom : Nat → List Char → List Char
  | 0, input => input
  | steps + 1, input =>
      match input.dropWhile Text.isBlank with
      | '#' :: rest => skipFrom steps ((rest.dropWhile (· != '\n')).drop 1)
      | rest => rest

/-- What follows blanks and comments, where they do not count. -/
def skip (mode : Mode) (input : List Char) : List Char :=
  if mode.spaced then skipFrom (input.length + 1) input else input

end Mode

/-- Things that stand one after the other, by how deep each of them nests. -/
structure Row where
  count : Nat := 0
  deepest : Nat := 0
  /-- The depth of the last one. -/
  last : Nat := 0
deriving Repr, DecidableEq, Inhabited

namespace Row

/-- Appends one more. -/
def add (row : Row) (depth : Nat) : Row :=
  ⟨row.count + 1, max row.deepest depth, depth⟩

/-- Repeats the last one. -/
def repeatLast (row : Row) : Row :=
  { row with deepest := max row.deepest (row.last + 1), last := row.last + 1 }

/-- How deep a row nests: a single thing makes no level of its own. -/
def depth (row : Row) : Nat :=
  if row.count ≤ 1 then row.deepest else row.deepest + 1

end Row

/-- What an escape stands for. -/
inductive Escape where
  | character (value : Char)
  | byte (value : Nat)
  /-- A class of digits, blanks or words, or all that is not in it. -/
  | shorthand (negated : Bool)
  /-- The beginning or the end of a word, or neither. -/
  | wordEdge
  /-- The beginning or the end of the text. -/
  | textEdge
deriving Repr, DecidableEq

/-- The number that so many hexadecimal digits stand for, behind the number of those before them. -/
def readHex (mode : Mode) (number : Nat) : Nat → List Char → Option (Nat × List Char)
  | 0, input => some (number, input)
  | count + 1, input =>
      match mode.skip input with
      | [] => none
      | digit :: rest => do readHex mode (number * 16 + (← Text.digitValue? 16 digit)) count rest

/-- The character with a code point given by so many digits. -/
def readCodePoint (mode : Mode) (count : Nat) (input : List Char) :
    Option (Escape × List Char) := do
  let (code, rest) ← readHex mode 0 count input
  if code < 0xD800 ∨ (0xE000 ≤ code ∧ code < 0x110000) then
    return (.character (Char.ofNat code), rest)
  else none

/-- Whether a backslash in front of a character makes it stand for itself. -/
def isEscapable (character : Char) : Bool :=
  character.toNat < 0x80 && !Text.isLetter character && !Text.isDigit character &&
    character != '<' && character != '>'

/-- An escape behind its backslash. -/
def readEscape (mode : Mode) : List Char → Option (Escape × List Char)
  | [] => none
  | character :: rest =>
      if character = 'x' then
        (readHex mode 0 2 rest).map fun (code, rest) => (.byte code, rest)
      else if character = 'u' then readCodePoint mode 4 rest
      else if character = 'U' then readCodePoint mode 8 rest
      else if ['d', 's', 'w'].contains character then some (.shorthand false, rest)
      else if ['D', 'S', 'W'].contains character then some (.shorthand true, rest)
      else if ['b', 'B', '<', '>'].contains character then some (.wordEdge, rest)
      else if ['A', 'z'].contains character then some (.textEdge, rest)
      else if ['a', 'f', 't', 'n', 'r', 'v'].contains character || isEscapable character then
        some (.character character, rest)
      else none

/-- The names of the classes in brackets and colons. -/
def classNames : List String :=
  ["alnum", "alpha", "ascii", "blank", "cntrl", "digit", "graph", "lower", "print", "punct",
    "space", "upper", "word", "xdigit"]

/-- A class with a name, behind its bracket: whether it stands for all that is not in it. -/
def readNamedClass (input : List Char) : Option (Bool × List Char) :=
  let (negated, input) := match input with
    | ':' :: '^' :: rest => (true, ':' :: rest)
    | _ => (false, input)
  match input with
  | ':' :: rest =>
      let name := rest.takeWhile (· != ':')
      match rest.drop name.length with
      | ':' :: ']' :: rest =>
          if classNames.contains (String.ofList name) then some (negated, rest) else none
      | _ => none
  | _ => none

/-- One end of a range in a class, which is a character, or else a shorthand. -/
def readClassEnd (mode : Mode) (input : List Char) : Option (Option Nat × List Char) :=
  match input with
  | [] => none
  | '\\' :: rest =>
      match readEscape mode rest with
      | some (.character character, rest) =>
          if mode.allowsInClass character then some (some character.toNat, rest) else none
      | some (.byte code, rest) =>
          if mode.allowsInClass (Char.ofNat code) then some (some code, rest) else none
      | some (.shorthand false, rest) => if mode.unicode then none else some (none, rest)
      | _ => none
  | character :: rest =>
      if mode.allowsInClass character then some (some character.toNat, rest) else none

/-- A character, a shorthand or a range in a class. A hyphen in front of a closing bracket or of
another hyphen makes no range. -/
def readClassItem (mode : Mode) (input : List Char) : Option (List Char) := do
  let (first, rest) ← readClassEnd mode input
  match mode.skip rest with
  | '-' :: behind =>
      match mode.skip behind with
      | ']' :: _ => some ('-' :: behind)
      | '-' :: _ => some ('-' :: behind)
      | behind =>
          let (last, rest) ← readClassEnd mode behind
          if (← first) ≤ (← last) then some rest else none
  | rest => some rest

/-- A class that is open. -/
structure OpenClass where
  items : Row := {}
  /-- The depth of what stands before the last operator. -/
  before? : Option Nat := none
  /-- Whether there has been nothing but hyphens. -/
  fresh : Bool := true
deriving Repr, DecidableEq, Inhabited

namespace OpenClass

/-- Appends something. -/
def add (level : OpenClass) (depth : Nat) : OpenClass :=
  { level with items := level.items.add depth, fresh := false }

/-- How deep the class nests. -/
def depth (level : OpenClass) : Nat :=
  match level.before? with
  | some before => max before level.items.depth + 1
  | none => level.items.depth

/-- Goes on behind an operator. -/
def operate (level : OpenClass) : OpenClass :=
  ⟨{}, some level.depth, false⟩

end OpenClass

/-- What stands next in a class. -/
inductive ClassToken where
  /-- A hyphen at the beginning, which stands for itself. -/
  | hyphen
  | item
  | opening
  | closing
  | operator
deriving Repr, DecidableEq

/-- Something that stands for all that is not in it, which bytes cannot. -/
def negating {α : Type} (mode : Mode) (negated : Bool) (value : α) : Option α :=
  if negated && !mode.unicode then none else some value

/-- What follows the opening bracket of a class, and the caret behind it. -/
def openClass (mode : Mode) (input : List Char) : Option (List Char) :=
  match mode.skip input with
  | '^' :: rest => negating mode true rest
  | rest => some rest

/-- The next token of a class. -/
def readClassToken (mode : Mode) (level : OpenClass) (input : List Char) :
    Option (ClassToken × List Char) :=
  let item (rest : Option (List Char)) := rest.map fun rest => (ClassToken.item, rest)
  match mode.skip input with
  | '-' :: rest =>
      if level.fresh then
        if mode.allowsCharacters then some (.hyphen, rest) else none
      else
        match rest with
        | '-' :: rest => some (.operator, rest)
        | _ => item (readClassItem mode ('-' :: rest))
  | ']' :: rest =>
      if level.fresh && level.items.count == 0 then
        if mode.allowsCharacters then some (.item, rest) else none
      else some (.closing, rest)
  | '&' :: '&' :: rest => some (.operator, rest)
  | '~' :: '~' :: rest => some (.operator, rest)
  | '[' :: rest =>
      match readNamedClass rest with
      | some (negated, rest) =>
          if mode.allowsCharacters then negating mode negated (.item, rest) else none
      | none => (openClass mode rest).map fun rest => (.opening, rest)
  | rest => item (readClassItem mode rest)

/-- A class behind its bracket, by how deep it nests. Each token takes a character at least. -/
def readClassFrom (mode : Mode) :
    Nat → OpenClass → List OpenClass → List Char → Option (Nat × List Char)
  | 0, _, _, _ => none
  | steps + 1, level, outer, input =>
      match readClassToken mode level input, outer with
      | none, _ => none
      | some (.hyphen, rest), _ =>
          readClassFrom mode steps { level with items := level.items.add 0 } outer rest
      | some (.item, rest), _ => readClassFrom mode steps (level.add 0) outer rest
      | some (.opening, rest), _ =>
          readClassFrom mode steps {} ({ level with fresh := false } :: outer) rest
      | some (.operator, rest), _ => readClassFrom mode steps level.operate outer rest
      | some (.closing, rest), [] => some (level.depth + 1, rest)
      | some (.closing, rest), parent :: outer =>
          readClassFrom mode steps (parent.add (level.depth + 1)) outer rest

/-- A class behind its bracket. -/
def readClass (mode : Mode) (input : List Char) : Option (Nat × List Char) := do
  readClassFrom mode (input.length + 1) {} [] (← openClass mode input)

/-- The switches of a group, up to the character behind them. Those read so far come last first. -/
def readSwitches (mode : Mode) (seen : List Char) :
    List Char → Option (Mode × List Char × List Char)
  | [] => none
  | character :: rest =>
      if character = ':' ∨ character = ')' then
        if seen.head? = some '-' then none else some (mode, seen, character :: rest)
      else if seen.contains character then none
      else if character = '-' then readSwitches mode ('-' :: seen) rest
      else if Mode.switches.contains character then
        readSwitches (mode.turn character (!seen.contains '-')) (character :: seen) rest
      else none

/-- Whether a character may stand in the name of a group. -/
def isNameChar (character : Char) : Bool :=
  character == '_' || character == '.' || character == '[' || character == ']' ||
    Text.inRanges Text.alphanumericRanges character.toNat

/-- Whether the name of a group may start with a character. -/
def isNameStart (character : Char) : Bool :=
  character == '_' || (!Text.isDigit character &&
    Text.inRanges Text.alphanumericRanges character.toNat)

/-- The name of a group behind its bracket. -/
def readName (input : List Char) : Option (List Char × List Char) :=
  let name := input.takeWhile (· != '>')
  match name, input.drop name.length with
  | first :: others, '>' :: rest =>
      if isNameStart first && others.all isNameChar then some (name, rest) else none
  | _, _ => none

/-- What a parenthesis opens. -/
inductive Opening where
  /-- Switches for what follows. -/
  | switches (mode : Mode)
  | group (inside : Mode) (name? : Option (List Char))
deriving Repr, DecidableEq

/-- What a parenthesis opens, behind it. -/
def readOpening (mode : Mode) (input : List Char) : Option (Opening × List Char) :=
  let named (input : List Char) := (readName input).map fun (name, rest) =>
    (Opening.group mode (some name), rest)
  match mode.skip input with
  | '?' :: 'P' :: '<' :: rest => named rest
  | '?' :: '<' :: rest => named rest
  | '?' :: rest =>
      match readSwitches mode [] rest with
      | some (inside, _, ':' :: rest) => some (.group inside none, rest)
      | some (mode, _ :: _, ')' :: rest) => some (.switches mode, rest)
      | _ => none
  | rest => some (.group mode none, rest)

/-- A group that is open. -/
structure OpenGroup where
  /-- The switches inside it. -/
  mode : Mode := {}
  branches : Row := {}
  items : Row := {}
  /-- Whether there is something in front that can be repeated. -/
  repeatable : Bool := false
deriving Repr, DecidableEq, Inhabited

namespace OpenGroup

/-- Appends something. -/
def add (group : OpenGroup) (depth : Nat) : OpenGroup :=
  { group with items := group.items.add depth, repeatable := true }

/-- Ends a branch. -/
def branch (group : OpenGroup) : OpenGroup :=
  { group with branches := group.branches.add group.items.depth, items := {}, repeatable := false }

/-- How deep the group nests. -/
def depth (group : OpenGroup) : Nat :=
  group.branch.branches.depth

end OpenGroup

/-- How far a pattern has been read. -/
structure Progress where
  group : OpenGroup := {}
  /-- The groups around it, the nearest first. -/
  outer : List OpenGroup := []
  /-- The names of the groups so far. -/
  names : List (List Char) := []
deriving Repr, DecidableEq, Inhabited

namespace Progress

/-- Appends something that nests no further. -/
def addLeaf (progress : Progress) : Progress :=
  { progress with group := progress.group.add 0 }

/-- Appends what an escape stands for. -/
def addEscape (progress : Progress) (escape : Escape) : Option Progress :=
  let mode := progress.group.mode
  let allowed := match escape with
    | .character _ => mode.allowsCharacters
    | .byte code => mode.allowsCharacters && (mode.unicode || code < 0x80)
    | .shorthand negated => !mode.unicode && !negated
    | .wordEdge => !mode.unicode
    | .textEdge => true
  if allowed then some progress.addLeaf else none

/-- Goes on behind what a parenthesis opens. Each name is given once. -/
def enter (progress : Progress) : Opening → Option Progress
  | .switches mode =>
      let group := { progress.group with
        mode, items := progress.group.items.add 0, repeatable := false }
      some { progress with group }
  | .group mode none =>
      some { progress with group := { mode }, outer := progress.group :: progress.outer }
  | .group mode (some name) =>
      if progress.names.contains name then none
      else
        some ⟨{ mode }, progress.group :: progress.outer, name :: progress.names⟩

/-- Goes on behind the end of a group. -/
def leave (progress : Progress) : Option Progress :=
  match progress.outer with
  | [] => none
  | parent :: outer =>
      some { progress with group := parent.add (progress.group.depth + 1), outer }

/-- Repeats what stands in front. -/
def repeatLast (progress : Progress) : Option Progress :=
  let group := progress.group
  if group.repeatable then
    some { progress with group := { group with items := group.items.repeatLast } }
  else none

/-- What follows the mark behind a repetition that takes as little as it can. -/
def passLazy : List Char → List Char
  | '?' :: rest => rest
  | rest => rest

/-- Reads what stands next. A brace would count repetitions, but it cannot be closed: what a pattern
stands in ends at the first closing brace. -/
def step (progress : Progress) (character : Char) (rest : List Char) :
    Option (Progress × List Char) :=
  let mode := progress.group.mode
  match character with
  | '(' => do
      let (opening, rest) ← readOpening mode rest
      return (← progress.enter opening, rest)
  | ')' => progress.leave.map fun progress => (progress, rest)
  | '|' => some ({ progress with group := progress.group.branch }, rest)
  | '[' => do
      let (depth, rest) ← readClass mode rest
      return ({ progress with group := progress.group.add depth }, rest)
  | '?' => progress.repeatLast.map fun progress => (progress, passLazy rest)
  | '*' => progress.repeatLast.map fun progress => (progress, passLazy rest)
  | '+' => progress.repeatLast.map fun progress => (progress, passLazy rest)
  | '{' => none
  | '\\' => do
      let (escape, rest) ← readEscape mode rest
      return (← progress.addEscape escape, rest)
  | '.' => if mode.unicode then some (progress.addLeaf, rest) else none
  | '^' => some (progress.addLeaf, rest)
  | '$' => some (progress.addLeaf, rest)
  | _ => if mode.allowsCharacters then some (progress.addLeaf, rest) else none

/-- Reads a pattern to its end. Each step takes a character at least. -/
def finish : Nat → Progress → List Char → Option Progress
  | 0, _, _ => none
  | steps + 1, progress, input =>
      match progress.group.mode.skip input with
      | [] => some progress
      | character :: rest => do
          let (progress, rest) ← progress.step character rest
          finish steps progress rest

end Progress

/-- How deep a pattern nests. -/
def nestingLimit : Nat := 250

/-- Whether a text is a pattern. -/
def isValid (text : List Char) : Bool :=
  match Progress.finish (text.length + 1) {} text with
  | some progress => progress.outer.isEmpty && progress.group.depth ≤ nestingLimit
  | none => false

end MethodForge.Log.Pattern
