import FlowClients.Text.LetterCase

/-!
The names that generated modules use: members for wire names, calls for methods, simple names for
types, and the path of the module made from a schema file.
-/

namespace FlowClients

/-- The in-memory name of a wire name: its words, cut at underscores, run together, each capitalized
but the first, which is lower-cased. -/
def memberName (wireName : String) : String :=
  match wireName.toList.splitOn '_' with
  | [] => ""
  | first :: words => String.ofList (Text.lowerWord first ++ words.flatMap Text.capitalize)

/-- The name with its first character, and no other, in lower case. -/
def decapitalize (name : String) : String :=
  match name.toList with
  | [] => ""
  | c :: cs => String.ofList (Text.lowerChar c ++ cs)

/-- The part of a dotted name after its last dot. -/
def simpleName (fullName : String) : String :=
  String.ofList ((fullName.toList.splitOn '.').getLastD [])

/-- What stands before a given ending, if the text has it. -/
def beforeEnding? (ending text : String) : Option String :=
  (ending.toList.isSuffixOf? text.toList).map String.ofList

def moduleExtension : String := ".js"

/-- The path of the module made from a schema file: its extension is replaced, or one is added. -/
def moduleFile (schemaFile : String) : String :=
  let stem? := beforeEnding? ".proto" schemaFile <|> beforeEnding? ".protodevel" schemaFile
  stem?.getD schemaFile ++ moduleExtension

end FlowClients
