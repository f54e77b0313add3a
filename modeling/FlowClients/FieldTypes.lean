import FlowClients.FieldKind
import FlowClients.Identifier
import FlowClients.Outline

/-!
The types that fields have in memory and on the wire. Some scalars are numbers, strings and
booleans, messages have types of their own and timestamps are dates; everything else is a string.
-/

namespace FlowClients

def timestampMessage : String := "google.protobuf.Timestamp"

/-- Whether a full name, which dots may precede, is that of timestamps. -/
def isTimestamp (fullName : String) : Bool :=
  fullName.toList.dropWhile (· == '.') == timestampMessage.toList

/-- In-memory and wire type of a message with a full name. -/
def messageTypes (fullName : String) : String × String :=
  if isTimestamp fullName then (timestampType, "string")
  else (simpleName fullName, wireTypeName (simpleName fullName))

def scalarType : FieldType → String
  | .double | .fixed32 | .fixed64 | .int32 | .int64 => "number"
  | .bool => "boolean"
  | _ => "string"

namespace FieldKind

/-- In-memory and wire type of one value. -/
def types : FieldKind → String × String
  | scalar type => (scalarType type, scalarType type)
  | message fullName => messageTypes fullName
  | group _ | enum _ => ("string", "string")

def isMessage : FieldKind → Bool
  | message _ => true
  | _ => false

/-- In-memory and wire type of a field: a list type if the field is repeated. -/
def fieldTypes (kind : FieldKind) (isRepeated : Bool) : String × String :=
  if isRepeated then (listType kind.types.1, listType kind.types.2) else kind.types

end FieldKind

end FlowClients
