import FlowClients.Descriptor.Record
import FlowClients.Extraction
import FlowClients.Output
import FlowClients.Wire.Reader
import FlowClients.Wire.Writer

/-!
Requests of a schema compiler: one with schema files is answered by generated files, or by the text
of what failed and no files.
-/

namespace FlowClients

structure Request where
  /-- The files that code is asked for; all are answered. -/
  wantedFiles : List String
  parameter : Option String
  files : List FileDescriptor

structure Response where
  error : Option String
  files : List OutputFile
deriving DecidableEq

namespace Request

/-- The generated files of a request. Its parameter is judged first. -/
def output (request : Request) : Except Fault (List OutputFile) := do
  let version ← orFailed .parameter (Version.ofParameter request.parameter)
  let catalog ← Catalog.ofFiles request.files
  return catalog.output version

/-- The answer to a request; there is none if the run is abandoned. -/
def answer (request : Request) : Option Response :=
  match request.output with
  | .ok files => some ⟨none, files⟩
  | .error (.failed failure) => some ⟨some failure.message, []⟩
  | .error (.unsupportedDialect _) => none

end Request

open Wire

def Request.toRecord (request : Request) : Record :=
  every 1 .text request.wantedFiles ++ perhaps 2 .text request.parameter ++
    filesToRecord 15 request.files

def Request.ofRecord (record : Record) : Request :=
  ⟨record.texts 1, record.text? 2, filesOfRecord 15 record⟩

def Request.read (bytes : Bytes) : Except ReadError Request :=
  (readRecord .request bytes).map Request.ofRecord

def Request.write (request : Request) : Bytes := writeRecord request.toRecord

/-- The one feature supported, optional fields of the newer dialect. -/
def Response.features : Nat := 1

def Response.toRecord (response : Response) : Record :=
  perhaps 1 .text response.error ++ [(2, .number features)] ++
    every 15 (fun file : OutputFile => .record [(1, .text file.path), (15, .text file.text)])
      response.files

def Response.write (response : Response) : Bytes := writeRecord response.toRecord

end FlowClients
