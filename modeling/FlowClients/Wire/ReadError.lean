
/-!
Where and why the reading of a binary text breaks off.
-/

namespace FlowClients.Wire

/-- How the value of a member is laid out. -/
inductive WireType
  | varint
  | sixtyFourBit
  | lengthDelimited
  | startGroup
  | endGroup
  | thirtyTwoBit
deriving DecidableEq

namespace WireType

def name : WireType → String
  | varint => "Varint"
  | sixtyFourBit => "SixtyFourBit"
  | lengthDelimited => "LengthDelimited"
  | startGroup => "StartGroup"
  | endGroup => "EndGroup"
  | thirtyTwoBit => "ThirtyTwoBit"

def ofNumber? (n : Nat) : Option WireType :=
  [varint, sixtyFourBit, lengthDelimited, startGroup, endGroup, thirtyTwoBit][n]?

end WireType

inductive ReadCause
  | varint
  | key (value : Nat)
  | wireTypeNumber (value : Nat)
  | memberNumber (value : Nat)
  | wireType (found expected : WireType)
  | underflow
  | lengthExceeded
  | notUtf8
  | unexpectedEndGroup
  | tooDeep

def ReadCause.message : ReadCause → String
  | .varint => "invalid varint"
  | .key value => s!"invalid key value: {value}"
  | .wireTypeNumber value => s!"invalid wire type value: {value}"
  | .memberNumber value => s!"invalid tag value: {value}"
  | .wireType found expected => s!"invalid wire type: {found.name} (expected {expected.name})"
  | .underflow => "buffer underflow"
  | .lengthExceeded => "delimited length exceeded"
  | .notUtf8 => "invalid string value: data is not UTF-8 encoded"
  | .unexpectedEndGroup => "unexpected end group tag"
  | .tooDeep => "recursion limit reached"

/-- A cause and the members that it was met in, the innermost first. -/
structure ReadError where
  path : List (String × String)
  cause : ReadCause

def ReadError.within (record member : String) (error : ReadError) : ReadError :=
  { error with path := error.path ++ [(record, member)] }

def ReadError.message (error : ReadError) : String :=
  "failed to decode Protobuf message: " ++
    String.join (error.path.map fun (record, member) => record ++ "." ++ member ++ ": ") ++
    error.cause.message

end FlowClients.Wire
