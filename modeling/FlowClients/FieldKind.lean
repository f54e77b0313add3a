
/-!
The declared type of a field, the kind that it turns out to have once its type name is resolved, and
its label.
-/

namespace FlowClients

inductive FieldType
  | double
  | float
  | int64
  | uint64
  | int32
  | fixed64
  | fixed32
  | bool
  | string
  | group
  | message
  | bytes
  | uint32
  | enum
  | sfixed32
  | sfixed64
  | sint32
  | sint64
deriving DecidableEq

namespace FieldType

/-- The types in the order of their numbers, which begin at 1. -/
def all : List FieldType :=
  [double, float, int64, uint64, int32, fixed64, fixed32, bool, string, group, message, bytes,
    uint32, enum, sfixed32, sfixed64, sint32, sint64]

def name : FieldType → String
  | double => "double"
  | float => "float"
  | int64 => "int64"
  | uint64 => "uint64"
  | int32 => "int32"
  | fixed64 => "fixed64"
  | fixed32 => "fixed32"
  | bool => "bool"
  | string => "string"
  | group => "group"
  | message => "message"
  | bytes => "bytes"
  | uint32 => "uint32"
  | enum => "enum"
  | sfixed32 => "sfixed32"
  | sfixed64 => "sfixed64"
  | sint32 => "sint32"
  | sint64 => "sint64"

def ofName? (text : String) : Option FieldType := all.find? (·.name == text)

def number (type : FieldType) : Int := all.idxOf type + 1

/-- A number that stands for no type stands for `double`. -/
def ofNumber (number : Int) : FieldType :=
  (all.find? (·.number == number)).getD double

/-- Whether a field of this type has to name its type. -/
def needsTypeName : FieldType → Bool
  | group | message | enum => true
  | _ => false

end FieldType

inductive Label
  | optional
  | required
  | repeated
deriving DecidableEq

namespace Label

def number : Label → Int
  | optional => 1
  | required => 2
  | repeated => 3

/-- A number that stands for no label stands for `optional`. -/
def ofNumber (number : Int) : Label :=
  if number = 2 then required else if number = 3 then repeated else optional

end Label

/-- What a field holds: a scalar, or what its type name refers to by full name. -/
inductive FieldKind
  | scalar (type : FieldType)
  | message (fullName : String)
  | group (fullName : String)
  | enum (fullName : String)
deriving DecidableEq

end FlowClients
