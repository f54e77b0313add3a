
/-!
Records as they travel: numbered members in the order of their occurrence. Of a member that should
occur once the last occurrence counts, and occurrences of a single record are read as one.
-/

namespace FlowClients.Wire

inductive Value
  /-- An unsigned number below 2^64. -/
  | number (value : Nat)
  | text (value : String)
  | record (members : List (Nat × Value))

abbrev Record := List (Nat × Value)

namespace Record

def numbers (record : Record) (member : Nat) : List Nat :=
  record.filterMap fun
    | (n, .number value) => if n = member then some value else none
    | _ => none

def texts (record : Record) (member : Nat) : List String :=
  record.filterMap fun
    | (n, .text value) => if n = member then some value else none
    | _ => none

def records (record : Record) (member : Nat) : List Record :=
  record.filterMap fun
    | (n, .record value) => if n = member then some value else none
    | _ => none

def text? (record : Record) (member : Nat) : Option String := (record.texts member).getLast?

def text (record : Record) (member : Nat) : String := (record.text? member).getD ""

/-- The low 32 bits of a number, as a signed one. -/
def toInt32 (n : Nat) : Int := (n : Int).bmod (1 <<< 32)

def ints (record : Record) (member : Nat) : List Int := (record.numbers member).map toInt32

def int? (record : Record) (member : Nat) : Option Int := (record.ints member).getLast?

def int (record : Record) (member : Nat) : Int := (record.int? member).getD 0

def flag (record : Record) (member : Nat) : Bool := (record.numbers member).getLast?.any (· != 0)

def record (record : Record) (member : Nat) : Record := (record.records member).flatten

end Record

/-- A signed number as the unsigned one with the same low 64 bits. -/
def ofInt (n : Int) : Nat := (n % (1 <<< 64 : Nat)).toNat

namespace Value

def int (n : Int) : Value := .number (ofInt n)

def flag (b : Bool) : Value := .number (if b then 1 else 0)

end Value

/-- Members of the same number, one for each element. -/
def every (member : Nat) (value : α → Value) (xs : List α) : Record :=
  xs.map fun x => (member, value x)

/-- A member that may be absent. -/
def perhaps (member : Nat) (value : α → Value) (x : Option α) : Record :=
  every member value x.toList

end FlowClients.Wire
