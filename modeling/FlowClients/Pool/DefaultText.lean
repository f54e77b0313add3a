import FlowClients.FieldKind

/-!
The texts that may stand as the default value of a scalar field.
-/

namespace FlowClients.Pool

/-- The number that a non-empty list of decimal digits stands for. -/
def natural? (digits : List Char) : Option Nat :=
  if !digits.isEmpty && digits.all Char.isDigit then
    some (digits.foldl (fun n c => 10 * n + (c.toNat - 48)) 0)
  else none

/-- Decimal digits, which a plus sign may precede. -/
def unsigned? : List Char → Option Nat
  | '+' :: digits => natural? digits
  | digits => natural? digits

/-- Decimal digits, which a sign may precede. -/
def signed? : List Char → Option Int
  | '-' :: digits => (natural? digits).map fun n => -(n : Int)
  | digits => (unsigned? digits).map Int.ofNat

def isUnsigned (bits : Nat) (text : List Char) : Bool := (unsigned? text).any (· < 1 <<< bits)

def isSigned (bits : Nat) (text : List Char) : Bool :=
  let bound := Int.ofNat (1 <<< (bits - 1))
  (signed? text).any fun n => -bound ≤ n && n < bound

def withoutSign : List Char → List Char
  | '+' :: rest | '-' :: rest => rest
  | text => text

/-- An exponent mark, a sign that may be absent, and digits; or nothing. -/
def isExponent : List Char → Bool
  | [] => true
  | c :: rest => (c == 'e' || c == 'E') && (natural? (withoutSign rest)).isSome

/-- Digits with at most one point among them and at least one digit, then an exponent that may be
absent. -/
def isDecimal (text : List Char) : Bool :=
  let whole := text.takeWhile Char.isDigit
  match text.dropWhile Char.isDigit with
  | '.' :: rest =>
    !(whole.isEmpty && (rest.takeWhile Char.isDigit).isEmpty) &&
      isExponent (rest.dropWhile Char.isDigit)
  | rest => !whole.isEmpty && isExponent rest

/-- A decimal of any size, an infinity or no number, in letters of either case. -/
def isReal (text : List Char) : Bool :=
  let magnitude := withoutSign text
  let word := String.ofList (magnitude.map Char.toLower)
  word == "inf" || word == "infinity" || word == "nan" || isDecimal magnitude

def isOctal (c : Char) : Bool := '0' ≤ c && c ≤ '7'

def isHex (c : Char) : Bool := c.isDigit || ('a' ≤ c && c ≤ 'f') || ('A' ≤ c && c ≤ 'F')

/-- Text in which every backslash begins an escape of C: a letter or mark, one to three octal digits
(those after the first stand for themselves otherwise), or `x` with two hexadecimal digits. -/
def isEscaped : List Char → Bool
  | [] => true
  | '\\' :: 'x' :: a :: b :: rest => isHex a && isHex b && isEscaped rest
  | '\\' :: c :: rest =>
    (isOctal c || c ∈ ['a', 'b', 'f', 'n', 'r', 't', 'v', '\\', '?', '\'', '"']) && isEscaped rest
  | ['\\'] => false
  | _ :: rest => isEscaped rest

/-- Whether a text is a value of a scalar type. -/
def isDefault (type : FieldType) (text : String) : Bool :=
  match type with
  | .double | .float => isReal text.toList
  | .int32 | .sint32 | .sfixed32 => isSigned 32 text.toList
  | .int64 | .sint64 | .sfixed64 => isSigned 64 text.toList
  | .uint32 | .fixed32 => isUnsigned 32 text.toList
  | .uint64 | .fixed64 => isUnsigned 64 text.toList
  | .bool => text == "true" || text == "false"
  | .string => true
  | .bytes => isEscaped text.toList
  | .group | .message | .enum => false

end FlowClients.Pool
