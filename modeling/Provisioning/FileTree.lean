import Provisioning.Bytes
import Provisioning.IoError

/-! # Files

The part of the host's file system that the program can reach: directories and files under their
full paths, and the directory that relative paths start from. A path is followed part by part; an
empty part and `.` stay where they are, `..` goes to the directory above. Reading gives the whole
file. Appending creates a missing file, and either adds all the bytes or changes nothing. It can
fail wherever the path leads: what the host makes of each append is told by a script.
-/

namespace Provisioning

inductive Node where
  | directory
  | file (contents : Bytes)
  deriving DecidableEq, Repr

/-- The parts of a full path. -/
abbrev Place := List String

structure FileTree where
  workingDirectory : Place := ["work"]
  nodes : List (Place × Node) := [(["work"], .directory)]
  /-- What the host makes of the next appends, one after the other: it fails with an error, or
  leaves it to the path. Behind the script all of them are left to their paths. -/
  appends : List (Option IoError) := []

namespace FileTree

/-- The longest part of a path, in bytes. -/
def maxNameLength : Nat := 255

/-- The longest path, in bytes. -/
def maxPathLength : Nat := 4095

def missing : IoError := ⟨.notFound, "No such file or directory (os error 2)"⟩

def notDirectory : IoError := ⟨.notADirectory, "Not a directory (os error 20)"⟩

def isDirectory : IoError := ⟨.isADirectory, "Is a directory (os error 21)"⟩

def nameTooLong : IoError := ⟨.invalidFilename, "File name too long (os error 36)"⟩

def nulInName : IoError := ⟨.invalidInput, "file name contained an unexpected NUL byte"⟩

/-- What stands at a place. The root is always a directory. -/
def node? (tree : FileTree) (place : Place) : Option Node :=
  if place.isEmpty then some .directory else tree.nodes.lookup place

/-- Put a node at a place, in the stead of what stood there. -/
def put (tree : FileTree) (place : Place) (node : Node) : FileTree :=
  { tree with nodes := (place, node) :: tree.nodes.filter (·.1 != place) }

/-- Follow parts that must all be directories. -/
def walk (tree : FileTree) : Place → List String → Except IoError Place
  | place, [] => .ok place
  | place, name :: rest =>
    if name = "." then tree.walk place rest
    else if name = ".." then tree.walk place.dropLast rest
    else if maxNameLength < name.utf8ByteSize then .error nameTooLong
    else match tree.node? (place ++ [name]) with
      | none => .error missing
      | some (.file _) => .error notDirectory
      | some .directory => tree.walk (place ++ [name]) rest

/-- A path that may be followed: where it starts, its parts, and whether it ends in a slash. -/
structure Route where
  origin : Place
  parents : List String
  /-- The last part, unless the path has none. -/
  name : Option String
  slash : Bool

def route (tree : FileTree) (path : String) : Except IoError Route :=
  if path.isEmpty then .error missing
  else if path.toList.contains '\x00' then .error nulInName
  else if maxPathLength < path.utf8ByteSize then .error nameTooLong
  else
    let parts := (path.splitOn "/").filter (· != "")
    .ok {
      origin := if path.toList.head? = some '/' then [] else tree.workingDirectory
      parents := parts.dropLast
      name := parts.getLast?
      slash := path.toList.getLast? = some '/' }

/-- Whether the last part of a path can only be a directory. -/
def Route.endsInDirectory (route : Route) : Bool :=
  route.name = none || route.name = some "." || route.name = some ".."

/-- The whole contents of the file that a path leads to. -/
def read (tree : FileTree) (path : String) : Except IoError Bytes := do
  let route ← tree.route path
  let parent ← tree.walk route.origin route.parents
  match route.name with
  | none => .error isDirectory
  | some name =>
    if route.endsInDirectory then .error isDirectory
    else if maxNameLength < name.utf8ByteSize then .error nameTooLong
    else match tree.node? (parent ++ [name]) with
      | none => .error missing
      | some .directory => .error isDirectory
      | some (.file contents) => if route.slash then .error notDirectory else .ok contents

/-- What can be read from a path: the contents of its file, and nothing if there is none. -/
def contents (tree : FileTree) (path : String) : Bytes :=
  match tree.read path with
  | .ok bytes => bytes
  | .error _ => []

/-- The tree with more bytes at the end of the file that a path leads to. -/
def extend (tree : FileTree) (path : String) (bytes : Bytes) : Except IoError FileTree := do
  let route ← tree.route path
  let parent ← tree.walk route.origin route.parents
  match route.name with
  | none => .error isDirectory
  | some name =>
    if route.endsInDirectory || route.slash then .error isDirectory
    else if maxNameLength < name.utf8ByteSize then .error nameTooLong
    else match tree.node? (parent ++ [name]) with
      | none => .ok (tree.put (parent ++ [name]) (.file bytes))
      | some .directory => .error isDirectory
      | some (.file contents) => .ok (tree.put (parent ++ [name]) (.file (contents ++ bytes)))

/-- The tree once an append has been tried. -/
def tried (tree : FileTree) : FileTree := { tree with appends := tree.appends.tail }

/-- Add bytes to the end of the file that a path leads to, if the host lets it happen. -/
def append (tree : FileTree) (path : String) (bytes : Bytes) : Except IoError FileTree :=
  match tree.appends.head? with
  | some (some error) => .error error
  | some none | none => (tree.extend path bytes).map tried

/-- Where a path leads when every part of it is a directory or new. -/
def place (tree : FileTree) (path : String) : Place :=
  let origin := if path.toList.head? = some '/' then [] else tree.workingDirectory
  ((path.splitOn "/").filter (· != "")).foldl
    (fun place name =>
      if name = "." then place else if name = ".." then place.dropLast else place ++ [name]) origin

/-- Make the directories that the parts name, one below the other. -/
def makeDirectories (tree : FileTree) : Place → List String → FileTree
  | _, [] => tree
  | place, name :: rest =>
    if name = "." then tree.makeDirectories place rest
    else if name = ".." then tree.makeDirectories place.dropLast rest
    else
      let here := place ++ [name]
      if (tree.node? here).isSome then tree.makeDirectories here rest
      else (tree.put here .directory).makeDirectories here rest

/-- The tree with the directories through which a path leads. -/
def withWay (path : String) (tree : FileTree) : FileTree :=
  match tree.route path with
  | .ok route => tree.makeDirectories route.origin route.parents
  | .error _ => tree

/-- The tree with a directory, and those above it. -/
def withDirectory (tree : FileTree) (path : String) : FileTree :=
  tree.makeDirectories [] (tree.place path)

/-- The tree with a file, and the directories above it. -/
def withFile (tree : FileTree) (path : String) (contents : Bytes) : FileTree :=
  let place := tree.place path
  (tree.makeDirectories [] place.dropLast).put place (.file contents)

end FileTree

end Provisioning
