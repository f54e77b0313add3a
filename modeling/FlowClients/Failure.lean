import FlowClients.Catalog
import FlowClients.FileError
import FlowClients.Pool.Rejection
import FlowClients.Version
import FlowClients.Wire.ReadError

/-!
Why a run fails, and in which words it says so.
-/

namespace FlowClients

inductive Failure
  /-- A set of schema files could not be read from a path. -/
  | unreadable (path : String) (cause : FileError)
  | undecodable (cause : Wire.ReadError)
  | rejected (cause : Rejection)
  | absentFile (name : String)
  | parameter (cause : ParameterError)
  | catalog (cause : CatalogError)
  /-- A generated file could not be written. -/
  | unwritable (cause : FileError)

/-- What a failure is about. -/
inductive FailureClass
  | schema
  | option
  | order
  | disk
deriving DecidableEq

namespace Failure

def failureClass : Failure → FailureClass
  | unreadable .. | undecodable _ | rejected _ | absentFile _ => .schema
  | parameter _ => .option
  | catalog _ => .order
  | unwritable _ => .disk

def message : Failure → String
  | unreadable path cause =>
    s!"Parse error: Failed to read FileDescriptorSet file {path}: {cause.message}"
  | undecodable cause => "Parse error: Failed to decode FileDescriptorSet: " ++ cause.message
  | rejected cause => "Parse error: Failed to create DescriptorPool: " ++ cause.message
  | absentFile name => s!"Parse error: File {name} missing from descriptor pool"
  | parameter cause => "Config error: " ++ cause.message
  | catalog cause => "Generation error: " ++ cause.message
  | unwritable cause => "IO error: " ++ cause.message

end Failure

/-- How a run ends that gives no result. -/
inductive Fault
  | failed (failure : Failure)
  /-- The run is abandoned without a word at a file in a dialect that is not supported. -/
  | unsupportedDialect (name : String)

/-- A result in which only failures can occur, as one in which the run may also be abandoned. -/
def orFailed (cause : ε → Failure) (result : Except ε α) : Except Fault α :=
  result.mapError fun e => .failed (cause e)

end FlowClients
