/-
Module: MethodForge.Host.NativePath
Purpose: Paths as the machine has them: bytes, which need not be UTF-8. Commands and generated files
  are texts, so a path has to be UTF-8 before it can go into one; messages show every path, with a
  mark for each run of bytes that is not.
Main exports: NativePath, NativePath.text?, NativePath.display, NativePath.join
-/
import MethodForge.Text.Utf8

namespace MethodForge.Host

/-- A path as the machine has it. -/
structure NativePath where
  bytes : Text.Bytes
deriving Repr, DecidableEq, Inhabited

namespace NativePath

/-- The path with the given text. -/
def ofText (text : String) : NativePath :=
  ⟨Text.Utf8.encode text⟩

/-- The text of a path, if it is UTF-8. -/
def text? (path : NativePath) : Option String :=
  (Text.Utf8.decode path.bytes).toOption

/-- A path as messages show it. -/
def display (path : NativePath) : String :=
  Text.Utf8.decodeLossy path.bytes

/-- The byte between the components of a path. -/
def separator : UInt8 := 0x2F

/-- Whether a path starts at the root. -/
def isAbsolute (path : NativePath) : Bool :=
  path.bytes.head? == some separator

/-- The path of a file as seen from a directory; an absolute one stays as it is. -/
def join (directory path : NativePath) : NativePath :=
  if path.isAbsolute then path
  else if directory.bytes.isEmpty || directory.bytes.getLast? == some separator then
    ⟨directory.bytes ++ path.bytes⟩
  else ⟨directory.bytes ++ separator :: path.bytes⟩

end NativePath

end MethodForge.Host
