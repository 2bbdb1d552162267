/-
Module: MethodForge.Path
Purpose: Slash-separated paths, treated as text alone: no file system is asked. `clean` computes the
  shortest spelling of a path, `join` puts elements together, `escape` climbs back out of a
  directory, and `toRoot` finds the root of a tree from a directory in which a command runs.
Main exports: clean, join, parent, escape, toRoot
-/

namespace MethodForge.Path

/-- The pieces of a path between its slashes. -/
def components (path : List Char) : List (List Char) :=
  path.splitOn '/'

/-- The component that climbs one level. -/
def up : List Char := ['.', '.']

/-- Whether a component stays where it is. -/
def isIdle (component : List Char) : Bool :=
  component == [] || component == ['.']

/-- Whether a component goes down into a named directory. -/
def isName (component : List Char) : Bool :=
  !isIdle component && component != up

/-- The path through the given components. -/
def ofComponents (parts : List (List Char)) : List Char :=
  ['/'].intercalate parts

/-- One step of normalization. The stack holds what is left of the components read so far, the last
one first. Climbing removes the name on top; with no name to remove it is kept in a relative path
and dropped at the root of an absolute one. -/
def descend (rooted : Bool) (stack : List (List Char)) (component : List Char) :
    List (List Char) :=
  if isIdle component then stack
  else if component == up then
    match stack with
    | top :: below =>
        if top != up then below
        else if rooted then stack else up :: stack
    | [] => if rooted then [] else [up]
  else component :: stack

/-- Whether a path starts at the root. -/
def isRooted : List Char → Bool
  | '/' :: _ => true
  | _ => false

/-- The components that are left after normalization, the last one first. -/
def normalStack (path : List Char) : List (List Char) :=
  (components path).foldl (descend (isRooted path)) []

/-- Normalization on characters: repeated slashes collapse, `.` drops out, `..` removes the name
before it, and a path that comes to nothing is `.`. -/
def normalize (path : List Char) : List Char :=
  let parts := (normalStack path).reverse
  if isRooted path then '/' :: ofComponents parts
  else if parts.isEmpty then ['.']
  else ofComponents parts

/-- The shortest path with the same meaning. -/
def clean (path : String) : String :=
  String.ofList (normalize path.toList)

/-- Joins path elements and cleans the result. Empty elements do not count; if there is no other,
the result is empty. -/
def join (elements : List String) : String :=
  let parts := (elements.map String.toList).filter (!·.isEmpty)
  if parts.isEmpty then "" else String.ofList (normalize (ofComponents parts))

/-- What stands up to and with the last slash, or nothing where there is none. -/
def directoryPart (path : List Char) : List Char :=
  (path.reverse.dropWhile (· != '/')).reverse

/-- The directory of a path: `.` for a bare file name. -/
def parent (path : String) : String :=
  let directory := directoryPart path.toList
  if directory.isEmpty then "." else String.ofList (normalize directory)

/-- The path that climbs out of `nested`: one `..` for each name in it, and none for an empty
component, `.` or `..`. -/
def escape (nested : String) : String :=
  String.ofList (ofComponents (((components nested.toList).filter isName).map fun _ => up))

/-- The root of the tree, seen from the directory `nested` in which a run works that writes to
`out`. The nesting of the output is undone first and the depth that is left is escaped; at the root
itself the answer is `.`, so that it can always be given as an include directory. -/
def toRoot (out nested : String) : String :=
  let root := escape (join [nested, escape out])
  if root.isEmpty then "." else root

end MethodForge.Path
