import FlowClients.Wire.Record

/-!
The binary text of a record: every member as a key, which holds its number and its layout, and a
value.
-/

namespace FlowClients.Wire

/-- Seven bits a byte, the lowest first, in at most `digits` bytes; all bytes but the last have the
high bit. -/
def varintBytes : Nat → Nat → List UInt8
  | 0, _ => []
  | digits + 1, n =>
    if n < 128 then [n.toUInt8] else (n % 128 + 128).toUInt8 :: varintBytes digits (n / 128)

/-- Ten bytes hold any number below 2^64. -/
def writeVarint (n : Nat) : List UInt8 := varintBytes 10 n

def writeKey (member wireType : Nat) : List UInt8 := writeVarint (8 * member + wireType)

def writeDelimited (member : Nat) (content : List UInt8) : List UInt8 :=
  writeKey member 2 ++ writeVarint content.length ++ content

def utf8Bytes (text : String) : List UInt8 := text.toUTF8.data.toList

/-- The members of a record, one after the other. -/
def writeRecord : List (Nat × Value) → List UInt8
  | [] => []
  | (member, .number n) :: rest => writeKey member 0 ++ writeVarint n ++ writeRecord rest
  | (member, .text text) :: rest => writeDelimited member (utf8Bytes text) ++ writeRecord rest
  | (member, .record inner) :: rest => writeDelimited member (writeRecord inner) ++ writeRecord rest

end FlowClients.Wire
