import FlowClients.Pool.Check
import FlowClients.Sorted

/-!
Schema files that have been accepted: names are unique, every reference has been resolved, and the
fields of a message are in increasing order of their numbers.
-/

namespace FlowClients

namespace Schema

structure Field where
  name : String
  number : Int
  isRepeated : Bool
  kind : FieldKind
deriving DecidableEq

structure Message where
  name : String
  fields : List Field
deriving DecidableEq

/-- The message that a method refers to. -/
structure MessageRef where
  fullName : String
  /-- The name by which the message is declared. -/
  name : String
deriving DecidableEq

structure Method where
  name : String
  request : MessageRef
  response : MessageRef
  isStreaming : Bool
deriving DecidableEq

structure Service where
  name : String
  methods : List Method
deriving DecidableEq

structure File where
  name : String
  package : String
  messages : List Message
  services : List Service
deriving DecidableEq

end Schema

structure Schema where
  files : List Schema.File
deriving DecidableEq

namespace Schema

open Pool

def file? (schema : Schema) (name : String) : Option File := schema.files.find? (·.name == name)

def resolveField (view : View) (scope : String) (field : FieldDescriptor) :
    Except Rejection Field := do
  let kind ← view.fieldKind (qualify scope field.name) [] field
  return ⟨field.name, field.number, field.label == .repeated, kind⟩

/-- The nested messages of a message are not part of the schema that clients are made from. -/
def resolveMessage (view : View) (package : String) (tree : MessageTree) :
    Except Rejection Message := do
  let fields ← tree.root.fields.mapM (resolveField view (qualify package tree.root.name))
  return ⟨tree.root.name, fields.foldr (insertSorted fun a b => a.number < b.number) []⟩

/-- The message that a name refers to. -/
def resolveMessageRef (view : View) (scope name : String) : Except Rejection MessageRef := do
  let target ← view.resolve .message scope name
  match target.meaning with
  | .message descriptor => return ⟨target.fullName, descriptor.name⟩
  | _ => throw (.notMessage target.fullName)

def resolveMethod (view : View) (scope : String) (method : MethodDescriptor) :
    Except Rejection Method := do
  let request ← resolveMessageRef view (qualify scope method.name) method.inputType
  let response ← resolveMessageRef view (qualify scope method.name) method.outputType
  return ⟨method.name, request, response, method.clientStreaming || method.serverStreaming⟩

def resolveService (view : View) (package : String) (service : ServiceDescriptor) :
    Except Rejection Service := do
  return ⟨service.name, ← service.methods.mapM (resolveMethod view (qualify package service.name))⟩

def resolveFile (names : Names) (files : List FileDescriptor) (file : FileDescriptor) :
    Except Rejection File := do
  let view := viewOf names files file
  return ⟨file.name, file.package, ← file.messages.mapM (resolveMessage view file.package),
    ← file.services.mapM (resolveService view file.package)⟩

/-- Accept a set of files, or say what is wrong with it first: all names come before all references.
-/
def accept (files : List (FileDescriptor × Dialect)) : Except Rejection Schema := do
  let names ← Names.ofFiles files
  let descriptors := files.map (·.1)
  descriptors.forM (checkFile names descriptors)
  return ⟨← descriptors.mapM (resolveFile names descriptors)⟩

end Schema

end FlowClients
