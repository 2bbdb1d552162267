/-
Module: MethodForge.Log.Event
Purpose: What a run notes about itself. An event has a severity, the part of the program it comes from,
  and a line of text. A computation that notes events gives them beside its value, in order, so that
  the value never depends on who reads the log.
Main exports: Level, Event, Event.note, Logged, Logged.tell
-/
import MethodForge.Text.Quoted

namespace MethodForge.Log

/-- How severe an event is. -/
inductive Level where
  | error
  | warn
  | info
  | debug
  | trace
deriving Repr, DecidableEq, Inhabited

namespace Level

/-- The levels, the most severe first. -/
def all : List Level :=
  [.error, .warn, .info, .debug, .trace]

/-- The place of a level, counted from one for the most severe. -/
def rank : Level → Nat
  | .error => 1
  | .warn => 2
  | .info => 3
  | .debug => 4
  | .trace => 5

/-- The name of a level in a filter. -/
def name : Level → String
  | .error => "error"
  | .warn => "warn"
  | .info => "info"
  | .debug => "debug"
  | .trace => "trace"

/-- The name of a level in front of an event. -/
def label : Level → String
  | .error => "ERROR"
  | .warn => "WARN"
  | .info => "INFO"
  | .debug => "DEBUG"
  | .trace => "TRACE"

end Level

/-- The parts of the program that note events. -/
inductive Source where
  | logging
  | registry
  | protocol
  | pluginRun
  | commandLine
  | pipeline
  | methods
  | scaffold
  | entrypoint
  | config
  | gateway
deriving Repr, DecidableEq, Inhabited

/-- The name by which a filter picks the events of a part. -/
def Source.target : Source → String
  | .logging => "korpc_logging"
  | .registry => "plugins"
  | .protocol => "dispatch"
  | .pluginRun => "korpc_cli"
  | .commandLine => "korpc"
  | .pipeline => "pipeline::runner"
  | .methods => "backend_codegen::methods"
  | .scaffold => "backend_codegen::scaffold"
  | .entrypoint => "backend_codegen::entrypoint"
  | .config => "backend_codegen::config"
  | .gateway => "backend_codegen::gateway"

/-- Something that a run notes. -/
structure Event where
  level : Level
  source : Source
  text : String
  /-- The names of what it holds: the message, and each value that goes with it. -/
  fields : List String := ["message"]
deriving Repr, DecidableEq, Inhabited

/-- One character of a message: controls that a terminal may act on are spelled out. -/
def messageChar (character : Char) : List Char :=
  let code := character.toNat
  if code = 0x1B ∨ code = 0x07 ∨ code = 0x08 ∨ code = 0x0C ∨ code = 0x7F then
    let digits := Text.hexadecimal code
    ['\\', 'x'] ++ List.replicate (2 - digits.length) '0' ++ digits
  else if 0x80 ≤ code ∧ code ≤ 0x9F then
    ['\\', 'u', '{'] ++ Text.hexadecimal code ++ ['}']
  else [character]

/-- A message as it is noted. -/
def messageText (message : String) : String :=
  String.ofList (message.toList.flatMap messageChar)

/-- A value that goes with a message. -/
structure Detail where
  key : String
  value : String
deriving Repr, DecidableEq, Inhabited

/-- A value that is noted as a quoted text. -/
def Detail.quoted (key value : String) : Detail :=
  ⟨key, Text.quoted value⟩

/-- A value that is a number. -/
def Detail.count (key : String) (value : Nat) : Detail :=
  ⟨key, toString value⟩

/-- A value that is a truth value. -/
def Detail.flag (key : String) (value : Bool) : Detail :=
  ⟨key, if value then "true" else "false"⟩

/-- The event with the given message and details. -/
def Event.note (level : Level) (source : Source) (message : String)
    (details : List Detail := []) : Event :=
  let detail (each : Detail) : String := " " ++ each.key ++ "=" ++ each.value
  ⟨level, source, messageText message ++ String.join (details.map detail),
    "message" :: details.map (·.key)⟩

/-- A value and the events that were noted on the way to it. -/
structure Logged (α : Type) where
  events : List Event
  value : α
deriving Repr

namespace Logged

/-- A value on the way to which nothing was noted. -/
def quiet {α : Type} (value : α) : Logged α :=
  ⟨[], value⟩

/-- Goes on from a value. -/
def andThen {α β : Type} (first : Logged α) (next : α → Logged β) : Logged β :=
  ⟨first.events ++ (next first.value).events, (next first.value).value⟩

instance : Monad Logged where
  pure := quiet
  bind := andThen

/-- Notes one event. -/
def tell (event : Event) : Logged Unit :=
  ⟨[event], ()⟩

@[simp] theorem value_pure {α : Type} (value : α) : (pure value : Logged α).value = value := rfl

@[simp] theorem value_bind {α β : Type} (first : Logged α) (next : α → Logged β) :
    (first >>= next).value = (next first.value).value := rfl

@[simp] theorem events_pure {α : Type} (value : α) : (pure value : Logged α).events = [] := rfl

@[simp] theorem events_bind {α β : Type} (first : Logged α) (next : α → Logged β) :
    (first >>= next).events = first.events ++ (next first.value).events := rfl

end Logged

end MethodForge.Log
