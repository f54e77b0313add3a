
/-!
The records that descriptors and plugin requests travel in, and the members known of each. All other
members are skipped.
-/

namespace FlowClients.Wire

inductive Shape
  | fileSet
  | file
  | message
  | extensionRange
  | reservedRange
  | field
  | oneof
  | enum
  | enumReservedRange
  | enumValue
  | service
  | method
  | messageOptions
  | enumOptions
  /-- A record of which nothing is read. -/
  | opaqueRecord
  | request
  | compilerVersion

inductive SlotKind
  | text
  | number
  /-- Any number of numbers, each on its own or many packed together. -/
  | numbers
  | record (shape : Shape)

/-- A known member. -/
structure Slot where
  number : Nat
  name : String
  kind : SlotKind

namespace Shape

def name : Shape → String
  | fileSet => "FileDescriptorSet"
  | file => "FileDescriptorProto"
  | message => "DescriptorProto"
  | extensionRange => "ExtensionRange"
  | reservedRange => "ReservedRange"
  | field => "FieldDescriptorProto"
  | oneof => "OneofDescriptorProto"
  | enum => "EnumDescriptorProto"
  | enumReservedRange => "EnumReservedRange"
  | enumValue => "EnumValueDescriptorProto"
  | service => "ServiceDescriptorProto"
  | method => "MethodDescriptorProto"
  | messageOptions => "MessageOptions"
  | enumOptions => "EnumOptions"
  | opaqueRecord => ""
  | request => "CodeGeneratorRequest"
  | compilerVersion => "Version"

def slots : Shape → List Slot
  | fileSet => [⟨1, "file", .record file⟩]
  | file => [⟨1, "name", .text⟩, ⟨2, "package", .text⟩, ⟨3, "dependency", .text⟩,
      ⟨4, "message_type", .record message⟩, ⟨5, "enum_type", .record enum⟩,
      ⟨6, "service", .record service⟩, ⟨7, "extension", .record field⟩,
      ⟨8, "options", .record opaqueRecord⟩, ⟨9, "source_code_info", .record opaqueRecord⟩,
      ⟨10, "public_dependency", .numbers⟩, ⟨11, "weak_dependency", .numbers⟩, ⟨12, "syntax", .text⟩]
  | message => [⟨1, "name", .text⟩, ⟨2, "field", .record field⟩,
      ⟨3, "nested_type", .record message⟩, ⟨4, "enum_type", .record enum⟩,
      ⟨5, "extension_range", .record extensionRange⟩, ⟨6, "extension", .record field⟩,
      ⟨7, "options", .record messageOptions⟩, ⟨8, "oneof_decl", .record oneof⟩,
      ⟨9, "reserved_range", .record reservedRange⟩, ⟨10, "reserved_name", .text⟩]
  | extensionRange => [⟨1, "start", .number⟩, ⟨2, "end", .number⟩,
      ⟨3, "options", .record opaqueRecord⟩]
  | reservedRange | enumReservedRange => [⟨1, "start", .number⟩, ⟨2, "end", .number⟩]
  | field => [⟨1, "name", .text⟩, ⟨2, "extendee", .text⟩, ⟨3, "number", .number⟩,
      ⟨4, "label", .number⟩, ⟨5, "r#type", .number⟩, ⟨6, "type_name", .text⟩,
      ⟨7, "default_value", .text⟩, ⟨8, "options", .record opaqueRecord⟩,
      ⟨9, "oneof_index", .number⟩, ⟨10, "json_name", .text⟩, ⟨17, "proto3_optional", .number⟩]
  | oneof => [⟨1, "name", .text⟩, ⟨2, "options", .record opaqueRecord⟩]
  | enum => [⟨1, "name", .text⟩, ⟨2, "value", .record enumValue⟩,
      ⟨3, "options", .record enumOptions⟩, ⟨4, "reserved_range", .record enumReservedRange⟩,
      ⟨5, "reserved_name", .text⟩]
  | enumValue => [⟨1, "name", .text⟩, ⟨2, "number", .number⟩, ⟨3, "options", .record opaqueRecord⟩]
  | service => [⟨1, "name", .text⟩, ⟨2, "method", .record method⟩,
      ⟨3, "options", .record opaqueRecord⟩]
  | method => [⟨1, "name", .text⟩, ⟨2, "input_type", .text⟩, ⟨3, "output_type", .text⟩,
      ⟨4, "options", .record opaqueRecord⟩, ⟨5, "client_streaming", .number⟩,
      ⟨6, "server_streaming", .number⟩]
  | messageOptions => [⟨1, "message_set_wire_format", .number⟩,
      ⟨2, "no_standard_descriptor_accessor", .number⟩, ⟨3, "deprecated", .number⟩,
      ⟨7, "map_entry", .number⟩]
  | enumOptions => [⟨2, "allow_alias", .number⟩, ⟨3, "deprecated", .number⟩]
  | opaqueRecord => []
  | request => [⟨1, "file_to_generate", .text⟩, ⟨2, "parameter", .text⟩,
      ⟨3, "compiler_version", .record compilerVersion⟩, ⟨15, "proto_file", .record file⟩]
  | compilerVersion => [⟨1, "major", .number⟩, ⟨2, "minor", .number⟩, ⟨3, "patch", .number⟩,
      ⟨4, "suffix", .text⟩]

def slot? (shape : Shape) (number : Nat) : Option Slot := shape.slots.find? (·.number == number)

end Shape

end FlowClients.Wire
