/-
Module: MethodForge.Main
Purpose: The program on a real machine. Everything is decided elsewhere; here files are read,
  directories created and bytes written.
Main exports: main
-/
import MethodForge.CommandLine.Run

namespace MethodForge

open CommandLine (Surroundings)
open Host (Environment FileState NativePath)

/-- What the run finds around it. -/
def findEnvironment : IO Environment := do
  let home? ← IO.getEnv "HOME"
  let configHome? ← IO.getEnv "XDG_CONFIG_HOME"
  let logFilter? ← IO.getEnv Log.filterVariable
  let executable ← IO.appPath
  return {
    home? := home?.map .ofText
    configHome? := configHome?.map .ofText
    executable? := some (.ofText executable.toString)
    logFilter? := logFilter?.map Text.Utf8.encode }

/-- The words for a failure of the system: what it says about it, and its number. -/
def failureText : IO.Error → String
  | .noFileOrDirectory _ code details
  | .permissionDenied _ code details
  | .alreadyExists _ code details
  | .inappropriateType _ code details
  | .invalidArgument _ code details
  | .resourceExhausted _ code details
  | .unsupportedOperation code details
  | .otherError code details => s!"{details} (os error {code})"
  | other => toString other

/-- The number of the failure to read a directory as a file. -/
def isDirectoryCode : UInt32 := 21

/-- Finds out what there is at a path. A path that leads through a file leads nowhere. -/
def lookAtFile (path : NativePath) : IO FileState :=
  match path.text? with
  | none => return .missing
  | some text => do
      try
        let content ← IO.FS.readBinFile text
        return .content content.toList
      catch error =>
        match error with
        | .noFileOrDirectory .. => return .missing
        | .inappropriateType _ code details =>
            if code = isDirectoryCode then
              return .unreadable (failureText (.inappropriateType none code details))
            else return .missing
        | other => return .unreadable (failureText other)

/-- Reads the standard input to its end. -/
def readInput : IO Source := do
  let input ← IO.getStdin
  let mut bytes : ByteArray := .empty
  repeat
    let chunk ← input.read 65536
    if chunk.isEmpty then break
    bytes := bytes ++ chunk
  return ⟨bytes.toList, none⟩

/-- Writes to the standard output. -/
def printBytes (bytes : Text.Bytes) : IO Unit := do
  let output ← IO.getStdout
  output.write ⟨bytes.toArray⟩
  output.flush

/-- Writes a line of the log; the levels stand in a column. -/
def printEvent (event : Log.Event) : IO Unit := do
  let label := event.level.label
  IO.eprintln (String.ofList (List.replicate (5 - label.length) ' ') ++ label ++ " " ++ event.text)

/-- Creates the directory at a path and those above it, or says why it cannot. -/
def makeDirectory (path : NativePath) : IO (Except String Unit) := do
  try
    IO.FS.createDirAll path.display
    return .ok ()
  catch error => return .error (failureText error)

/-- Programs are not started from here: the commands of a generation can be shown and run by a
shell. -/
def refuseToStart (_ : Command) (_ : NativePath) : IO (Except String ExitStatus) :=
  return .error "Operation not supported (os error 95)"

/-- The machine that the program runs on. -/
def realSurroundings : IO (Surroundings IO) := do
  let environment ← findEnvironment
  return {
    environment
    look := lookAtFile
    input := readInput
    print := printBytes
    log := printEvent
    createDirectory := makeDirectory
    start := refuseToStart }

end MethodForge

/-- Runs the program. Called by a user without a task it shows its help. -/
def main (arguments : List String) : IO UInt32 := do
  let surroundings ← MethodForge.realSurroundings
  if arguments.isEmpty && (← (← IO.getStdin).isTty) then
    surroundings.printText MethodForge.CommandLine.helpText
    return 0
  let code ← surroundings.run arguments
  if code = 2 then IO.eprintln MethodForge.CommandLine.usageText
  return code.toUInt32
