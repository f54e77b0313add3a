import FlowClients.Conversion
import FlowClients.Outline.CallShape
import FlowClients.Outline.Import
import FlowClients.Transport
import FlowClients.Version

/-!
The declarations of a client module: for every model its types and converters, for every service a
class. Each path, type and expression that their text needs has been decided.
-/

namespace FlowClients

/-- A member of the types of a model and of the objects that its converters build. -/
structure MemberDecl where
  name : String
  wireName : String
  memberType : String
  wireType : String
  serialized : Expr
  deserialized : Expr
deriving DecidableEq

structure ModelDecl where
  name : String
  wireType : String
  members : List MemberDecl
deriving DecidableEq

structure CallDecl where
  name : String
  /-- The last segment of the request path. -/
  rpc : String
  argument : String
  request : String
  requestWireType : String
  response : String
  shape : CallShape
deriving DecidableEq

/-- The expression that is sent as the body of the request. -/
def CallDecl.body (call : CallDecl) : String :=
  if call.shape.takesArgument then "body" else "\x7b\x7d"

structure ClassDecl where
  name : String
  /-- What stands before the last segment of a request path. -/
  pathRoot : String
  calls : List CallDecl
deriving DecidableEq

structure ClientModule where
  /-- The specifier of the transport module. -/
  transport : String
  imports : List Import
  models : List ModelDecl
  classes : List ClassDecl
deriving DecidableEq

def Field.declaration (field : Field) : MemberDecl where
  name := field.name
  wireName := field.wireName
  memberType := field.memberType
  wireType := field.wireType
  serialized := field.serialized
  deserialized := field.deserialized

def Model.declaration (model : Model) : ModelDecl where
  name := model.name
  wireType := wireTypeName model.name
  members := model.fields.map Field.declaration

def Method.declaration (method : Method) (catalog : Catalog) : CallDecl where
  name := method.name
  rpc := method.rpc
  argument := method.argument
  request := method.request
  requestWireType := wireTypeName method.request
  response := method.response
  shape := method.shape catalog

def Service.declaration (service : Service) (version : Version) (catalog : Catalog) :
    ClassDecl where
  name := service.name
  pathRoot := version.pathRoot ++ "/" ++ service.fullName ++ "/"
  calls := service.methods.map (·.declaration catalog)

/-- Builtin models are not declared. -/
def Outline.clientModule (outline : Outline) (version : Version) (catalog : Catalog) :
    ClientModule where
  transport := Specifier.between outline.file transportFile
  imports := outline.imports catalog
  models := (outline.models.filter (!·.builtin)).map Model.declaration
  classes := outline.services.map (·.declaration version catalog)

end FlowClients
