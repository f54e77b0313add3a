import FlowClients.Descriptor
import FlowClients.Wire.Record

/-!
Schema files as records: what a record says about a file, and the record that says it.
-/

namespace FlowClients

open Wire

namespace NumberRange

def ofRecord (record : Record) : NumberRange := ⟨record.int 1, record.int 2⟩

def toRecord (range : NumberRange) : Record := [(1, .int range.first), (2, .int range.last)]

end NumberRange

namespace FieldDescriptor

def ofRecord (record : Record) : FieldDescriptor where
  name := record.text 1
  number := record.int 3
  label := .ofNumber (record.int 4)
  type := .ofNumber (record.int 5)
  typeName := record.text 6
  extendee := record.text? 2
  defaultValue := record.text? 7
  oneofIndex := record.int? 9
  jsonName := record.text? 10

def toRecord (field : FieldDescriptor) : Record :=
  (1, .text field.name) :: perhaps 2 .text field.extendee ++
    [(3, .int field.number), (4, .int field.label.number), (5, .int field.type.number),
      (6, .text field.typeName)] ++
    perhaps 7 .text field.defaultValue ++ perhaps 9 .int field.oneofIndex ++
    perhaps 10 .text field.jsonName

end FieldDescriptor

namespace EnumDescriptor

def ofRecord (record : Record) : EnumDescriptor where
  name := record.text 1
  values := (record.records 2).map fun value => ⟨value.text 1, value.int 2⟩
  reservedRanges := (record.records 4).map NumberRange.ofRecord
  allowAlias := (record.record 3).flag 2

def toRecord (descriptor : EnumDescriptor) : Record :=
  (1, .text descriptor.name) ::
    every 2 (fun value : EnumValueDescriptor =>
      .record [(1, .text value.name), (2, .int value.number)]) descriptor.values ++
    [(3, .record [(2, .flag descriptor.allowAlias)])] ++
    every 4 (fun range => .record range.toRecord) descriptor.reservedRanges

end EnumDescriptor

namespace MessageDescriptor

def ofRecord (record : Record) : MessageDescriptor where
  name := record.text 1
  fields := (record.records 2).map FieldDescriptor.ofRecord
  extensions := (record.records 6).map FieldDescriptor.ofRecord
  enums := (record.records 4).map EnumDescriptor.ofRecord
  extensionRanges := (record.records 5).map NumberRange.ofRecord
  oneofs := (record.records 8).map (·.text 1)
  reservedRanges := (record.records 9).map NumberRange.ofRecord

def toRecord (descriptor : MessageDescriptor) : Record :=
  (1, .text descriptor.name) ::
    every 2 (fun field => .record field.toRecord) descriptor.fields ++
    every 4 (fun descriptor => .record descriptor.toRecord) descriptor.enums ++
    every 5 (fun range => .record range.toRecord) descriptor.extensionRanges ++
    every 6 (fun field => .record field.toRecord) descriptor.extensions ++
    every 8 (fun name => .record [(1, .text name)]) descriptor.oneofs ++
    every 9 (fun range => .record range.toRecord) descriptor.reservedRanges

end MessageDescriptor

/-- The messages under a member of a record, with the messages nested in them. -/
def messageTrees (member : Nat) : List (Nat × Value) → List MessageTree
  | [] => []
  | (n, .record inner) :: rest =>
    if n = member then ⟨.ofRecord inner, messageTrees 3 inner⟩ :: messageTrees member rest
    else messageTrees member rest
  | _ :: rest => messageTrees member rest
termination_by members => sizeOf members
decreasing_by
  all_goals simp only [List.cons.sizeOf_spec, Prod.mk.sizeOf_spec, Value.record.sizeOf_spec]
  all_goals omega

mutual

def MessageTree.toRecord : MessageTree → Record
  | ⟨root, nested⟩ => root.toRecord ++ nestedMembers nested

/-- Nested messages as members of the message around them. -/
def nestedMembers : List MessageTree → Record
  | [] => []
  | tree :: rest => (3, .record tree.toRecord) :: nestedMembers rest

end

namespace ServiceDescriptor

def ofRecord (record : Record) : ServiceDescriptor where
  name := record.text 1
  methods := (record.records 2).map fun method =>
    ⟨method.text 1, method.text 2, method.text 3, method.flag 5, method.flag 6⟩

def toRecord (service : ServiceDescriptor) : Record :=
  (1, .text service.name) ::
    every 2 (fun method : MethodDescriptor => .record
      [(1, .text method.name), (2, .text method.inputType), (3, .text method.outputType),
        (5, .flag method.clientStreaming), (6, .flag method.serverStreaming)]) service.methods

end ServiceDescriptor

namespace FileDescriptor

def ofRecord (record : Record) : FileDescriptor where
  name := record.text 1
  package := record.text 2
  dependencies := record.texts 3
  publicDependencies := record.ints 10
  weakDependencies := record.ints 11
  messages := messageTrees 4 record
  enums := (record.records 5).map EnumDescriptor.ofRecord
  services := (record.records 6).map ServiceDescriptor.ofRecord
  extensions := (record.records 7).map FieldDescriptor.ofRecord
  dialectName := record.text? 12

def toRecord (file : FileDescriptor) : Record :=
  [(1, .text file.name), (2, .text file.package)] ++
    every 3 .text file.dependencies ++
    every 4 (fun tree => .record tree.toRecord) file.messages ++
    every 5 (fun descriptor => .record descriptor.toRecord) file.enums ++
    every 6 (fun service => .record service.toRecord) file.services ++
    every 7 (fun field => .record field.toRecord) file.extensions ++
    every 10 .int file.publicDependencies ++ every 11 .int file.weakDependencies ++
    perhaps 12 .text file.dialectName

end FileDescriptor

/-- A set of files is a record with the files as its first member. -/
def filesOfRecord (member : Nat) (record : Record) : List FileDescriptor :=
  (record.records member).map FileDescriptor.ofRecord

def filesToRecord (member : Nat) (files : List FileDescriptor) : Record :=
  every member (fun file => .record file.toRecord) files

end FlowClients
