import FlowClients.FieldKind

/-!
Schema files as a compiler describes them, before anything has been checked: names may clash,
references may lead nowhere and numbers may be out of range.
-/

namespace FlowClients

/-- Numbers from `first` on; whether `last` belongs to it depends on what it ranges over. -/
structure NumberRange where
  first : Int
  last : Int
deriving DecidableEq

/-- The last number lies outside. -/
def NumberRange.contains (range : NumberRange) (n : Int) : Bool :=
  range.first ≤ n && n < range.last

/-- The last number lies inside. -/
def NumberRange.containsToEnd (range : NumberRange) (n : Int) : Bool :=
  range.first ≤ n && n ≤ range.last

structure FieldDescriptor where
  name : String
  number : Int
  label : Label
  type : FieldType
  /-- Empty if the type needs no name. -/
  typeName : String
  extendee : Option String
  defaultValue : Option String
  oneofIndex : Option Int
  jsonName : Option String

structure EnumValueDescriptor where
  name : String
  number : Int

structure EnumDescriptor where
  name : String
  values : List EnumValueDescriptor
  /-- Both ends belong to a reserved range. -/
  reservedRanges : List NumberRange
  allowAlias : Bool

/-- What a message declares, its nested messages apart. -/
structure MessageDescriptor where
  name : String
  fields : List FieldDescriptor
  extensions : List FieldDescriptor
  enums : List EnumDescriptor
  /-- The last number does not belong to an extension range. -/
  extensionRanges : List NumberRange
  oneofs : List String
  /-- The last number does not belong to a reserved range. -/
  reservedRanges : List NumberRange

/-- A message with the messages nested in it. -/
structure MessageTree where
  root : MessageDescriptor
  nested : List MessageTree

structure MethodDescriptor where
  name : String
  inputType : String
  outputType : String
  clientStreaming : Bool
  serverStreaming : Bool

structure ServiceDescriptor where
  name : String
  methods : List MethodDescriptor

structure FileDescriptor where
  name : String
  package : String
  dependencies : List String
  /-- Positions in the list of dependencies. -/
  publicDependencies : List Int
  /-- Positions in the list of dependencies. -/
  weakDependencies : List Int
  messages : List MessageTree
  enums : List EnumDescriptor
  services : List ServiceDescriptor
  extensions : List FieldDescriptor
  /-- The name of the dialect, if the file states one. -/
  dialectName : Option String

inductive Dialect
  | proto2
  | proto3
deriving DecidableEq

/-- A file that states no dialect is in the older one; other names are not supported. -/
def FileDescriptor.dialect? (file : FileDescriptor) : Option Dialect :=
  match file.dialectName with
  | none => some .proto2
  | some name =>
    if name = "proto2" then some .proto2 else if name = "proto3" then some .proto3 else none

end FlowClients
