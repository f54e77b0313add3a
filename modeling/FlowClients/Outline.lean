/-!
What schema files come down to: models with fields and services with methods, and for each module to
be generated an outline that lists its own. A field has a name and a type in memory and on the wire.
-/

namespace FlowClients

/-- The in-memory type of timestamps. -/
def timestampType : String := "Date"

/-- The type that the values of a model have on the wire. -/
def wireTypeName (model : String) : String := model ++ "JSON"

def listType (item : String) : String := "Array<" ++ item ++ ">"

/-- The type between `Array<` and `>`; any other type is its own item type. -/
def itemType (type : String) : String :=
  match "Array<".toList.isPrefixOf? type.toList with
  | none => type
  | some inner => ((['>'].isSuffixOf? inner).map String.ofList).getD type

structure Field where
  name : String
  type : String
  wireName : String
  wireType : String
  isMessage : Bool
  isRepeated : Bool
deriving DecidableEq

/-- The type of one value; only repeated fields are lists of values. -/
def Field.singleType (field : Field) : String :=
  if field.isRepeated then itemType field.type else field.type

def Field.holdsDates (field : Field) : Bool := field.singleType == timestampType

structure Model where
  /-- The module that declares the model. -/
  file : String
  name : String
  /-- Whether the language itself has the type, so that no module declares it. -/
  builtin : Bool
  fields : List Field
deriving DecidableEq

/-- The type of timestamps. -/
def Model.timestamp : Model := ⟨"", timestampType, true, []⟩

structure Method where
  name : String
  /-- The last segment of the request path. -/
  rpc : String
  /-- The name of the parameter. -/
  argument : String
  request : String
  response : String
deriving DecidableEq

structure Service where
  name : String
  package : String
  methods : List Method
deriving DecidableEq

def Service.fullName (service : Service) : String :=
  if service.package = "" then service.name else service.package ++ "." ++ service.name

/-- The models and services of one module, in the order of their declaration. -/
structure Outline where
  file : String
  models : List Model
  services : List Service
deriving DecidableEq

end FlowClients
