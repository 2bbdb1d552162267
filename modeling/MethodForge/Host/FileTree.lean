/-
Module: MethodForge.Host.FileTree
Purpose: Files and directories that are kept in memory, so that what a run does to a machine can be
  computed. Paths are walked component by component: a component must be in a directory, `..` goes
  to the directory above, and the root is above itself. There are no links and no permissions. What
  a change has done before it meets a fault stays done.
Main exports: FileTree, FileTree.look, FileTree.Change, FileTree.createDirectories,
  FileTree.writeFile
-/
import MethodForge.Host.Environment
import MethodForge.Path
import MethodForge.SortedMap

namespace MethodForge.Host

/-- What there is at a path. -/
inductive Node where
  | directory
  | file (content : Text.Bytes)
deriving Repr, DecidableEq, Inhabited

/-- Why something cannot be done to a file. -/
inductive FileFault where
  | notFound
  | permissionDenied
  | alreadyThere
  | notDirectory
  | isDirectory
  | nameTooLong
  | nulInName
deriving Repr, DecidableEq, Inhabited

/-- The words for a fault. -/
def FileFault.message : FileFault → String
  | .notFound => "No such file or directory (os error 2)"
  | .permissionDenied => "Permission denied (os error 13)"
  | .alreadyThere => "File exists (os error 17)"
  | .notDirectory => "Not a directory (os error 20)"
  | .isDirectory => "Is a directory (os error 21)"
  | .nameTooLong => "File name too long (os error 36)"
  | .nulInName => "file name contained an unexpected NUL byte"

/-- Files and directories by their paths. The root itself is not an entry. -/
structure FileTree where
  nodes : SortedMap Node := .empty
deriving Repr, DecidableEq, Inhabited

namespace FileTree

/-- The key of the root. -/
def root : String := ""

/-- The key of what a directory holds under a name. -/
def child (directory name : String) : String :=
  directory ++ "/" ++ name

/-- What there is under a key. -/
def node? (tree : FileTree) (key : String) : Option Node :=
  if key.isEmpty then some .directory else tree.nodes.find? key

/-- The key of the directory above. -/
def above (key : String) : String :=
  String.ofList (key.toList.reverse.dropWhile (· != '/')).tail.reverse

/-- The components of a path. -/
def componentsOf (path : String) : List String :=
  (Path.components path.toList).map String.ofList

/-- The longest name, in bytes. -/
def nameLimit : Nat := 255

/-- The longest path, in bytes. -/
def pathLimit : Nat := 4095

/-- The components of a path that can be asked for at all. -/
def accept (path : String) : Except FileFault (List String) :=
  if path.contains '\x00' then .error .nulInName
  else if path.isEmpty then .error .notFound
  else if path.utf8ByteSize > pathLimit then .error .nameTooLong
  else .ok (componentsOf path)

/-- The key at which a path starts: that of the directory, or the root's for an absolute path. -/
def start (directory path : String) : String :=
  if Path.isRooted path.toList then root else directory

/-- The key that one more component leads to. -/
def step (tree : FileTree) (key component : String) : Except FileFault String :=
  match tree.node? key with
  | none => .error .notFound
  | some (.file _) => .error .notDirectory
  | some .directory =>
      if component.isEmpty || component == "." then .ok key
      else if component == ".." then .ok (above key)
      else if component.utf8ByteSize > nameLimit then .error .nameTooLong
      else .ok (child key component)

/-- The key that a path leads to from a directory; an absolute path starts at the root. The last
component need not be there. -/
def locate (tree : FileTree) (directory path : String) : Except FileFault String := do
  let components ← accept path
  components.foldlM tree.step (start directory path)

/-- What there is at a path. -/
def find (tree : FileTree) (directory path : String) : Except FileFault (String × Node) := do
  let key ← tree.locate directory path
  match tree.node? key with
  | some node => return (key, node)
  | none => .error .notFound

/-- What reading the file at a path comes to. -/
def look (tree : FileTree) (directory : String) (path : NativePath) : FileState :=
  match path.text? with
  | none => .missing
  | some path =>
      match tree.find directory path with
      | .error _ => .missing
      | .ok (_, .directory) => .unreadable FileFault.isDirectory.message
      | .ok (_, .file content) => .content content

/-- Something done to a tree. After a fault the tree is as the fault found it. -/
abbrev Change := EStateM FileFault FileTree

/-- Puts something under a key. -/
def put (key : String) (node : Node) : Change Unit :=
  modify fun tree => ⟨tree.nodes.insert key node⟩

/-- Goes one component on from a key, into a new directory where there is nothing. -/
def enter (key component : String) : Change String := do
  let tree ← get
  let next ← ofExcept (tree.step key component)
  if (tree.node? next).isNone then put next .directory
  return next

/-- Creates the directories that a path leads through, and the last one. -/
def createDirectories (directory path : String) : Change Unit := do
  let components ← ofExcept (accept path)
  let key ← components.foldlM enter (start directory path)
  match (← get).node? key with
  | some (.file _) => throw .alreadyThere
  | _ => return ()

/-- Writes a file, and creates the directories above it. -/
def writeFile (directory path : String) (content : Text.Bytes) : Change Unit := do
  createDirectories directory (Path.parent path)
  put (← ofExcept ((← get).locate directory path)) (.file content)

/-- The tree after a change, and the fault that the change has met. -/
def apply (tree : FileTree) (change : Change Unit) : FileTree × Option FileFault :=
  match change.run tree with
  | .ok _ tree => (tree, none)
  | .error fault tree => (tree, some fault)

/-- The directories below a directory, as seen from it, in ascending order. -/
def directoriesBelow (tree : FileTree) (directory : String) : List String :=
  let start := (directory ++ "/").toList
  tree.nodes.entries.filterMap fun (key, node) =>
    if node = .directory && start.isPrefixOf key.toList then
      some (String.ofList (key.toList.drop start.length))
    else none

end FileTree

end MethodForge.Host
