import FlowClients.Files

/-!
A tree of files as a value: a table from locations below the root to files and directories, and the
directory in which relative paths begin.
-/

namespace FlowClients

/-- The names that lead from the root to a file or directory. -/
abbrev Location := List String

inductive FileNode
  | directory
  | file (content : List UInt8)
deriving DecidableEq

structure FileTree where
  nodes : List (Location × FileNode)
  workingDirectory : Location
deriving DecidableEq

namespace FileTree

/-- The root is a directory of every tree. -/
def node? (tree : FileTree) (location : Location) : Option FileNode :=
  if location = [] then some .directory else (tree.nodes.find? (·.1 == location)).map (·.2)

/-- Put a node at a location, in place of what is there. -/
def put (tree : FileTree) (location : Location) (node : FileNode) : FileTree :=
  { tree with nodes := tree.nodes.filter (·.1 != location) ++ [(location, node)] }

def requireDirectory (tree : FileTree) (location : Location) : Except FileError Unit :=
  match tree.node? location with
  | none => .error .notFound
  | some (.file _) => .error .notDirectory
  | some .directory => .ok ()

/-- The length of the longest name, in bytes. -/
def maxNameLength : Nat := 255

/-- Follow segments from a location. Everything on the way has to be a directory. -/
def walk (tree : FileTree) : Location → List String → Except FileError Location
  | location, [] => .ok location
  | location, segment :: rest => do
    tree.requireDirectory location
    if Path.isIdle segment then tree.walk location rest
    else if segment = ".." then tree.walk location.dropLast rest
    else if maxNameLength < segment.utf8ByteSize then throw .nameTooLong
    else tree.walk (location ++ [segment]) rest

/-- Follow the segments of a path from where it begins. -/
def follow (tree : FileTree) (path : String) (segments : List String) : Except FileError Location :=
  if '\x00' ∈ path.toList then .error .holdsNul
  else tree.walk (if Path.isAbsolute path then [] else tree.workingDirectory) segments

def locate (tree : FileTree) (path : String) : Except FileError Location :=
  tree.follow path (Path.segments path)

def read (tree : FileTree) (path : String) : Except FileError (List UInt8) := do
  match tree.node? (← tree.locate path) with
  | none => throw .notFound
  | some .directory => throw .isDirectory
  | some (.file content) => return content

/-- Slashes at the end of the path do not count. -/
def makeDirectory (tree : FileTree) (path : String) : Except FileError FileTree := do
  let segments := ((Path.segments path).reverse.dropWhile (· == "")).reverse
  let location ← tree.follow path segments
  match tree.node? location with
  | some _ => throw .alreadyExists
  | none => return tree.put location .directory

def isDirectory (tree : FileTree) (path : String) : Bool :=
  match tree.locate path with
  | .ok location => tree.node? location = some .directory
  | .error _ => false

def write (tree : FileTree) (path : String) (content : List UInt8) : Except FileError FileTree := do
  let location ← tree.locate path
  match tree.node? location with
  | some .directory => throw .isDirectory
  | _ => return tree.put location (.file content)

/-- Change the tree unless the change fails. -/
def attempt (change : FileTree → Except FileError FileTree) :
    StateM FileTree (Except FileError Unit) := do
  match change (← get) with
  | .ok tree => set tree; return .ok ()
  | .error cause => return .error cause

instance : Files (StateM FileTree) where
  read path := return (← get).read path
  makeDirectory path := attempt (·.makeDirectory path)
  isDirectory path := return (← get).isDirectory path
  write path content := attempt (·.write path content)

/-- Everything below a location, by the names that lead there from it. -/
def below (tree : FileTree) (top : Location) : List (Location × FileNode) :=
  tree.nodes.filterMap fun (location, node) =>
    match top.isPrefixOf? location with
    | some (name :: rest) => some (name :: rest, node)
    | _ => none

end FileTree

end FlowClients
