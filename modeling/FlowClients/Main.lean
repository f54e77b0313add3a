import FlowClients.CommandLine.Run

/-!
The program: the command line run on the files of the system.
-/

namespace FlowClients

/-- The cause of a failed operation on a file. -/
def FileError.ofSystem : IO.Error → FileError
  | .noFileOrDirectory .. => .notFound
  | .alreadyExists .. => .alreadyExists
  | error => match error.toString.splitOn "Is a directory" with
    | [_] =>
      if (error.toString.splitOn "Not a directory").length = 1 then .other error.toString
      else .notDirectory
    | _ => .isDirectory

def orFileError {α : Type} (action : IO α) : IO (Except FileError α) := do
  match ← action.toBaseIO with
  | .ok a => return .ok a
  | .error cause => return .error (.ofSystem cause)

instance : Files IO where
  read path := orFileError (return (← IO.FS.readBinFile path).data.toList)
  makeDirectory path := orFileError (IO.FS.createDir path)
  isDirectory path := do
    -- a directory cannot be made at its own dot
    match ← orFileError (IO.FS.createDir (path ++ "/.")) with
    | .error .alreadyExists => return true
    | _ => return false
  write path content := orFileError (IO.FS.writeBinFile path ⟨content.toArray⟩)

/-- Everything up to the end of a stream. -/
partial def readAll (stream : IO.FS.Stream) (soFar : ByteArray) : IO ByteArray := do
  let chunk ← stream.read 65536
  if chunk.isEmpty then return soFar else readAll stream (soFar ++ chunk)

end FlowClients

def main (arguments : List String) : IO UInt32 := do
  let input : IO (List UInt8) := return (← FlowClients.readAll (← IO.getStdin) .empty).data.toList
  let outcome ← FlowClients.CommandLine.run arguments input
  for message in outcome.messages do
    IO.eprintln message
  let stdout ← IO.getStdout
  stdout.write ⟨outcome.printed.bytes.toArray⟩
  stdout.flush
  return outcome.exitCode.toUInt32
