import FlowClients.Wire.ReadError
import FlowClients.Wire.Record
import FlowClients.Wire.Shape

/-!
Reading a record of a known shape from its binary text. A nested record is read from all bytes that
are left, and its length is compared only after each of its members; records and groups may be
nested in one another to a fixed depth.
-/

namespace FlowClients.Wire

abbrev Bytes := List UInt8

/-- At most `digits` bytes, of which the tenth of a number may only be 0 or 1. -/
def takeVarintFrom (digits shift : Nat) : Bytes → Option (Nat × Bytes)
  | [] => none
  | byte :: rest =>
    match digits with
    | 0 => none
    | more + 1 =>
      if byte < 128 then
        if more = 0 ∧ 1 < byte then none else some (byte.toNat * 2 ^ shift, rest)
      else
        (takeVarintFrom more (shift + 7) rest).map fun (n, rest) =>
          ((byte.toNat - 128) * 2 ^ shift + n, rest)

def takeVarint (bytes : Bytes) : Except ReadCause (Nat × Bytes) :=
  match takeVarintFrom 10 0 bytes with
  | some result => .ok result
  | none => .error .varint

/-- The number and layout of a member. -/
def takeKey (bytes : Bytes) : Except ReadCause ((Nat × WireType) × Bytes) := do
  let (key, rest) ← takeVarint bytes
  if 1 <<< 32 ≤ key then throw (.key key)
  match WireType.ofNumber? (key % 8) with
  | none => throw (.wireTypeNumber (key % 8))
  | some wireType =>
    if key / 8 = 0 then throw (.memberNumber 0)
    return ((key / 8, wireType), rest)

def takeBytes (count : Nat) (bytes : Bytes) : Except ReadCause (Bytes × Bytes) :=
  if bytes.length < count then .error .underflow else .ok (bytes.splitAt count)

/-- The number of bytes that a length allows, and how many will be left after them. -/
def takeLength (bytes : Bytes) : Except ReadCause (Nat × Bytes) := do
  let (length, rest) ← takeVarint bytes
  if rest.length < length then throw .underflow
  return (rest.length - length, rest)

mutual

/-- Skip the value of an unknown member. A key inside a group takes a byte for two units of fuel. -/
def skipValue : Nat → Nat → Nat → WireType → Bytes → Except ReadCause Bytes
  | 0, _, _, _, _ => .error .tooDeep
  | fuel + 1, depth, member, wireType, bytes =>
    if depth = 0 then .error .tooDeep
    else match wireType with
      | .varint => return (← takeVarint bytes).2
      | .thirtyTwoBit => return (← takeBytes 4 bytes).2
      | .sixtyFourBit => return (← takeBytes 8 bytes).2
      | .lengthDelimited => do
        let (length, rest) ← takeVarint bytes
        return (← takeBytes length rest).2
      | .startGroup => skipGroup fuel depth member bytes
      | .endGroup => .error .unexpectedEndGroup

/-- Skip members up to the end of the group that a member opened. -/
def skipGroup : Nat → Nat → Nat → Bytes → Except ReadCause Bytes
  | 0, _, _, _ => .error .tooDeep
  | fuel + 1, depth, member, bytes => do
    let ((inner, wireType), rest) ← takeKey bytes
    if wireType = .endGroup then
      if inner = member then return rest else throw .unexpectedEndGroup
    else
      let rest ← skipValue fuel (depth - 1) inner wireType rest
      skipGroup fuel depth member rest

end

def expectWireType (expected found : WireType) : Except ReadCause Unit :=
  if found = expected then .ok () else .error (.wireType found expected)

def takeText (bytes : Bytes) : Except ReadCause (String × Bytes) := do
  let (length, rest) ← takeVarint bytes
  let (content, rest) ← takeBytes length rest
  match String.fromUTF8? ⟨content.toArray⟩ with
  | some text => return (text, rest)
  | none => throw .notUtf8

/-- Numbers up to the place where `left` bytes are left. -/
def takePacked : Nat → Nat → Bytes → Except ReadCause (List Nat × Bytes)
  | 0, _, _ => .error .tooDeep
  | fuel + 1, left, bytes =>
    if bytes.length < left then .error .lengthExceeded
    else if bytes.length = left then .ok ([], bytes)
    else do
      let (n, rest) ← takeVarint bytes
      let (more, rest) ← takePacked fuel left rest
      return (n :: more, rest)

def orReadError (result : Except ReadCause α) : Except ReadError α := result.mapError (⟨[], ·⟩)

/-- The values of a known member; `readNested` reads a nested record up to a number of bytes left.
-/
def takeSlot (readNested : Shape → Nat → Nat → Bytes → Except ReadError (Record × Bytes))
    (fuel depth : Nat) (wireType : WireType) (bytes : Bytes) :
    SlotKind → Except ReadError (List Value × Bytes)
  | .text => orReadError do
    expectWireType .lengthDelimited wireType
    let (text, rest) ← takeText bytes
    return ([.text text], rest)
  | .number => orReadError do
    expectWireType .varint wireType
    let (n, rest) ← takeVarint bytes
    return ([.number n], rest)
  | .numbers => orReadError do
    if wireType = .lengthDelimited then
      let (left, rest) ← takeLength bytes
      let (ns, rest) ← takePacked fuel left rest
      return (ns.map .number, rest)
    else
      expectWireType .varint wireType
      let (n, rest) ← takeVarint bytes
      return ([.number n], rest)
  | .record shape => do
    orReadError (expectWireType .lengthDelimited wireType)
    if depth = 0 then throw ⟨[], .tooDeep⟩
    let (left, rest) ← orReadError (takeLength bytes)
    let (members, rest) ← readNested shape (depth - 1) left rest
    return ([.record members], rest)

/-- The members of a record up to the place where `left` bytes are left. Every member takes a byte,
so as much fuel as there are bytes is enough. -/
def takeMembers : Nat → Shape → Nat → Nat → Bytes → Except ReadError (Record × Bytes)
  | 0, _, _, _, _ => .error ⟨[], .tooDeep⟩
  | fuel + 1, shape, depth, left, bytes =>
    if bytes.length < left then .error ⟨[], .lengthExceeded⟩
    else if bytes.length = left then .ok ([], bytes)
    else do
      let ((member, wireType), rest) ← orReadError (takeKey bytes)
      match shape.slot? member with
      | none =>
        let rest ← orReadError (skipValue (2 * rest.length + 2) depth member wireType rest)
        takeMembers fuel shape depth left rest
      | some slot =>
        let (values, rest) ←
          (takeSlot (takeMembers fuel) fuel depth wireType rest slot.kind).mapError
            (·.within shape.name slot.name)
        let (more, rest) ← takeMembers fuel shape depth left rest
        return (every member id values ++ more, rest)

/-- How deep records may be nested. -/
def maxDepth : Nat := 100

/-- Read a whole binary text as one record. -/
def readRecord (shape : Shape) (bytes : Bytes) : Except ReadError Record := do
  let (members, _) ← takeMembers (bytes.length + 1) shape maxDepth 0 bytes
  return members

end FlowClients.Wire
