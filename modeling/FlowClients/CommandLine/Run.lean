import FlowClients.Catalog.Dump
import FlowClients.CommandLine.Arguments
import FlowClients.DescriptorSet
import FlowClients.Files
import FlowClients.Request

/-!
Running a command: `parse` shows what is extracted from a set of schema files, `generate` writes the
generated files below a directory, and without a subcommand the request on the standard input is
answered.
-/

namespace FlowClients.CommandLine

/-- What a run prints on its standard output. -/
inductive Printed
  | text (content : String)
  | answer (response : Response)
deriving DecidableEq

def Printed.bytes : Printed → List UInt8
  | .text content => Wire.utf8Bytes content
  | .answer response => response.write

structure Outcome where
  exitCode : Nat
  printed : Printed
  /-- The lines of the error output. -/
  messages : List String
deriving DecidableEq

def Outcome.ofMessages (exitCode : Nat) (messages : List String) : Outcome :=
  ⟨exitCode, .text "", messages⟩

def textLines (text : String) : List String := (text.toList.splitOn '\n').map String.ofList

/-- The lines of a text, the first one behind `first` and the others behind `next`. -/
def indented (first next text : String) : List String :=
  match textLines text with
  | [] => []
  | line :: rest => (first ++ line) :: rest.map (next ++ ·)

/-- A failure in its context: several causes are numbered. -/
def report (context : String) (causes : List String) : List String :=
  ["Error: " ++ context, "", "Caused by:"] ++ match causes with
    | [cause] => indented "    " "    " cause
    | _ => causes.zipIdx.flatMap fun (cause, i) => indented s!"    {i}: " "       " cause

/-- A failure to write has the failure of the system as a cause of its own. -/
def causes : Failure → List String
  | .unwritable cause => [(Failure.unwritable cause).message, cause.message]
  | failure => [failure.message]

/-- What was being done when a failure arose. -/
def context : Failure → String
  | .unreadable .. | .undecodable _ | .rejected _ => "Failed to load FileDescriptorSet"
  | .absentFile _ | .catalog _ => "Failed to extract models and services"
  | .parameter _ | .unwritable _ => "Failed to generate clients"

/-- The end of a run after messages; one that is abandoned leaves none of them. -/
def Outcome.ofFault (messages : List String) : Fault → Outcome
  | .failed failure => .ofMessages 1 (messages ++ report (context failure) (causes failure))
  | .unsupportedDialect _ => .ofMessages 101 []

def fieldLine (field : Field) : String := s!"      {field.name}: {field.type}"

def modelLines (model : Model) : List String :=
  s!"    type {model.name} ({model.fields.length} fields)" :: model.fields.map fieldLine

def methodLine (method : Method) : String :=
  "      " ++ method.rpc ++ "(" ++ method.request ++ ") -> " ++ method.response

def serviceLines (service : Service) : List String :=
  s!"    service {service.fullName}" :: service.methods.map methodLine

def outlineLines (verbose : Bool) (outline : Outline) : List String :=
  let models := outline.models.filter (!·.builtin)
  s!"  • {outline.file} ({models.length} models, {outline.services.length} services)" ::
    if verbose then models.flatMap modelLines ++ outline.services.flatMap serviceLines else []

/-- What a catalog holds, in lines. -/
def summary (verbose : Bool) (catalog : Catalog) : List String :=
  ["", "Files:"] ++ catalog.outlines.flatMap (outlineLines verbose)

def ofLines (lines : List String) : String := String.join (lines.map (· ++ "\n"))

def readingLines (path : String) : List String := textLines ("→ Parsing descriptor set: " ++ path)

def writingLine (version : Version) : String :=
  "→ Generating Flow clients for Twirp " ++ version.name ++ "..."

section

variable {m : Type → Type} [Monad m] [Files m]

/-- Read, check and extract a set of schema files. -/
def readCatalog (path : String) : m (Except Fault Catalog) := do
  match ← Files.read path with
  | .error cause => return .error (.failed (.unreadable path cause))
  | .ok bytes =>
    match DescriptorSet.read bytes with
    | .error failure => return .error (.failed failure)
    | .ok files => return Catalog.ofFiles files

/-- Write files below a directory, in order, up to the first that fails. The paths are those
written. -/
def writeFiles (directory : String) : List OutputFile → m (Except FileError (List String))
  | [] => return .ok []
  | file :: rest => do
    let path := Path.join directory file.path
    match ← Files.writeBelow path (Wire.utf8Bytes file.text) with
    | .error cause => return .error cause
    | .ok () =>
      match ← writeFiles directory rest with
      | .error cause => return .error cause
      | .ok paths => return .ok (path :: paths)

/-- Make the output directory and write files below it. -/
def writeOutput (directory : String) (files : List OutputFile) :
    m (Except FileError (List String)) := do
  match ← Files.makeDirectories directory with
  | .error cause => return .error cause
  | .ok () => writeFiles directory files

def runParse (path : String) (json verbose : Bool) : m Outcome := do
  match ← readCatalog path with
  | .error fault => return .ofFault (readingLines path) fault
  | .ok catalog =>
    if json then return ⟨0, .text (catalog.dump ++ "\n"), readingLines path⟩
    else return ⟨0, .text (ofLines (summary verbose catalog)),
      readingLines path ++ ["", "✓ Parse successful!"]⟩

def runGenerate (path directory : String) (version : Version) : m Outcome := do
  match ← readCatalog path with
  | .error fault => return .ofFault (readingLines path) fault
  | .ok catalog =>
    let messages := readingLines path ++ [writingLine version]
    match ← writeOutput directory (catalog.output version) with
    | .error cause => return .ofFault messages (.failed (.unwritable cause))
    | .ok paths => return .ofMessages 0 (messages ++
        ["", "✓ Generation complete!", "", "Generated files:"] ++
        paths.flatMap fun path => textLines ("  " ++ path))

/-- Answer a request in binary form. -/
def runRequest (input : List UInt8) : Outcome :=
  match Request.read input with
  | .error cause => .ofMessages 1 (report "Failed to decode CodeGeneratorRequest" [cause.message])
  | .ok request =>
    match request.answer with
    | some response => ⟨0, .answer response, []⟩
    | none => .ofMessages 101 []

def programName : String := "protoc-gen-twirp_flow"

def helpLines : List String := [
  "Generate Flow-typed Twirp JSON clients from protobuf schemas",
  "",
  "Usage: " ++ programName ++ " [OPTIONS] [COMMAND]",
  "",
  "Commands:",
  "  parse     Parse a FileDescriptorSet and display the extracted models and services",
  "  generate  Generate Flow clients from a FileDescriptorSet",
  "  help      Print this message or the help of the given subcommand(s)",
  "",
  "Options:",
  "  -v, --verbose  Enable verbose output",
  "  -h, --help     Print help",
  "  -V, --version  Print version"]

/-- Run a command line; `input` reads the whole standard input. -/
def run (arguments : List String) (input : m (List UInt8)) : m Outcome := do
  match Command.ofArguments arguments with
  | .error (.usage error) => return .ofMessages 2 ((textLines error.message).take 1)
  | .error .help => return ⟨0, .text (ofLines helpLines), []⟩
  | .error .version => return ⟨0, .text (programName ++ " 0.2.0\n"), []⟩
  | .ok .answerRequest => return runRequest (← input)
  | .ok (.parse path json verbose) => runParse path json verbose
  | .ok (.generate path directory version) => runGenerate path directory version

end

end FlowClients.CommandLine
