import FlowClients.FileError
import FlowClients.Path

/-!
Reading and writing files: what a run asks of the place where it runs, and directories made together
with those around them.
-/

namespace FlowClients

/-- A place with files, reached by path texts. -/
class Files (m : Type → Type) where
  read : String → m (Except FileError (List UInt8))
  /-- Make one directory in a directory that is there. -/
  makeDirectory : String → m (Except FileError Unit)
  isDirectory : String → m Bool
  /-- Write a whole file in a directory that is there. -/
  write : String → List UInt8 → m (Except FileError Unit)

namespace Files

variable {m : Type → Type} [Monad m] [Files m]

/-- Make a directory, unless there is one already. -/
def makeUnlessThere (path : String) : m (Except FileError Unit) := do
  match ← makeDirectory path with
  | .ok () => return .ok ()
  | .error cause => return if ← isDirectory path then .ok () else .error cause

/-- Make a directory and, where they are missing, at most `fuel` directories around it. -/
def makeAround : Nat → String → m (Except FileError Unit)
  | 0, _ => return .ok ()
  | fuel + 1, path => do
    if path = "" then return .ok ()
    match ← makeDirectory path with
    | .ok () => return .ok ()
    | .error .notFound =>
      match Path.parent? path with
      | none => return .error (.other "failed to create whole tree")
      | some parent =>
        match ← makeAround fuel parent with
        | .error cause => return .error cause
        | .ok () => makeUnlessThere path
    | .error cause => return if ← isDirectory path then .ok () else .error cause

/-- Make a directory and all directories around it that are missing. -/
def makeDirectories (path : String) : m (Except FileError Unit) :=
  makeAround ((Path.segments path).length + 1) path

/-- Write a file and make the directories that it needs. -/
def writeBelow (path : String) (content : List UInt8) : m (Except FileError Unit) := do
  match Path.parent? path with
  | none => write path content
  | some parent =>
    match ← makeDirectories parent with
    | .error cause => return .error cause
    | .ok () => write path content

end Files

end FlowClients
