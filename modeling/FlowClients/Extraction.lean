import FlowClients.Failure
import FlowClients.FieldTypes
import FlowClients.Schema

/-!
Extraction: an accepted schema file becomes an outline with a model for each of its top-level
messages and a service, without its streaming methods, for each of its services. The file that
declares timestamps is left out.
-/

namespace FlowClients

def timestampFile : String := "google/protobuf/timestamp.proto"

namespace Schema

def Field.extract (field : Schema.Field) : FlowClients.Field where
  name := memberName field.name
  type := (field.kind.fieldTypes field.isRepeated).1
  wireName := field.name
  wireType := (field.kind.fieldTypes field.isRepeated).2
  isMessage := field.kind.isMessage
  isRepeated := field.isRepeated

def Message.extract (message : Message) (file : String) : Model :=
  ⟨file, message.name, false, message.fields.map Field.extract⟩

def Method.extract (method : Schema.Method) : FlowClients.Method where
  name := decapitalize method.name
  rpc := method.name
  argument := decapitalize method.request.name
  request := method.request.name
  response := method.response.name

def Service.extract (service : Schema.Service) (package : String) : FlowClients.Service :=
  ⟨service.name, package, (service.methods.filter (!·.isStreaming)).map Method.extract⟩

/-- Open the module of a file and add all that the file declares. -/
def File.addTo (file : File) (catalog : Catalog) : Except CatalogError Catalog := do
  if file.name = timestampFile then return catalog
  let path := moduleFile file.name
  let catalog ← file.messages.foldlM
    (fun catalog message => catalog.addModel (message.extract path)) (catalog.openModule path)
  file.services.foldlM
    (fun catalog service => catalog.addService (service.extract file.package)) catalog

/-- Add the file of a name. -/
def addNamed (schema : Schema) (catalog : Catalog) (name : String) : Except Failure Catalog :=
  match schema.file? name with
  | none => .error (.absentFile name)
  | some file => (file.addTo catalog).mapError .catalog

/-- The catalog of the files that are named, in their order. -/
def catalog (schema : Schema) (names : List String) : Except Failure Catalog :=
  names.foldlM schema.addNamed .empty

end Schema

/-- A file with its dialect; an unsupported one ends the run. -/
def FileDescriptor.withDialect (file : FileDescriptor) : Except Fault (FileDescriptor × Dialect) :=
  match file.dialect? with
  | some dialect => .ok (file, dialect)
  | none => .error (.unsupportedDialect (file.dialectName.getD ""))

/-- Check a set of files. The dialects are looked at before anything else. -/
def Schema.ofFiles (files : List FileDescriptor) : Except Fault Schema := do
  let dialected ← files.mapM (·.withDialect)
  orFailed .rejected (Schema.accept dialected)

/-- Check a set of files and extract it. -/
def Catalog.ofFiles (files : List FileDescriptor) : Except Fault Catalog := do
  let schema ← Schema.ofFiles files
  orFailed id (schema.catalog (files.map (·.name)))

end FlowClients
