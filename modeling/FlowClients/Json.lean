
/-!
JSON texts without numbers, printed one member or element a line, two blanks deeper at each level.
-/

namespace FlowClients

inductive Json
  | text (value : String)
  | truth (value : Bool)
  | array (elements : List Json)
  | record (members : List (String × Json))

namespace Json

def hexDigit (n : Nat) : Char := if n < 10 then Char.ofNat (48 + n) else Char.ofNat (87 + n)

/-- Quotes, backslashes and control characters below U+0020 are escaped, the usual ones by a letter.
-/
def escapeChar (c : Char) : List Char :=
  if c = '"' then ['\\', '"']
  else if c = '\\' then ['\\', '\\']
  else if c.toNat = 8 then ['\\', 'b']
  else if c.toNat = 12 then ['\\', 'f']
  else if c = '\n' then ['\\', 'n']
  else if c = '\r' then ['\\', 'r']
  else if c = '\t' then ['\\', 't']
  else if c.toNat < 0x20 then
    ['\\', 'u', '0', '0', hexDigit (c.toNat / 16), hexDigit (c.toNat % 16)]
  else [c]

def quote (text : String) : List Char := '"' :: (text.toList.flatMap escapeChar ++ ['"'])

/-- The end of a line and the blanks that begin the next one. -/
def newline (depth : Nat) : List Char := '\n' :: List.replicate (2 * depth) ' '

mutual

def print (depth : Nat) : Json → List Char
  | .text value => quote value
  | .truth value => if value then "true".toList else "false".toList
  | .array [] => ['[', ']']
  | .array (first :: rest) =>
    '[' :: newline (depth + 1) ++ print (depth + 1) first ++ printElements (depth + 1) rest ++
      newline depth ++ [']']
  | .record [] => ['{', '}']
  | .record ((key, value) :: rest) =>
    '{' :: newline (depth + 1) ++ quote key ++ [':', ' '] ++ print (depth + 1) value ++
      printMembers (depth + 1) rest ++ newline depth ++ ['}']

/-- The elements after the first, each after a comma and on its own line. -/
def printElements (depth : Nat) : List Json → List Char
  | [] => []
  | element :: rest => ',' :: newline depth ++ print depth element ++ printElements depth rest

/-- The members after the first. -/
def printMembers (depth : Nat) : List (String × Json) → List Char
  | [] => []
  | (key, value) :: rest =>
    ',' :: newline depth ++ quote key ++ [':', ' '] ++ print depth value ++ printMembers depth rest

end

/-- The text of a value that begins at the left margin. -/
def pretty (value : Json) : String := String.ofList (print 0 value)

end Json

end FlowClients
