import FlowClients.ClientModule.Template

/-!
The text of a client module, part by part: the header, the imports, four declarations for every
model and the classes. Each part begins on a new line.
-/

namespace FlowClients

/-- A line of the text, other than its first, begins with `head`. -/
def StartsLine (head text : String) : Prop := '\n' :: head.toList <:+: text.toList

theorem startsLine_of_eq {head text : String} (front rest : String)
    (parts : text = front ++ "\n" ++ head ++ rest) : StartsLine head text :=
  ⟨front.toList, rest.toList, by simp [parts]⟩

theorem StartsLine.append_left {head text : String} (starts : StartsLine head text)
    (front : String) : StartsLine head (front ++ text) := by
  rw [StartsLine, String.toList_append]
  exact starts.trans (List.suffix_append _ _).isInfix

theorem StartsLine.append_right {head text : String} (starts : StartsLine head text)
    (rest : String) : StartsLine head (text ++ rest) := by
  rw [StartsLine, String.toList_append]
  exact starts.trans (List.prefix_append _ _).isInfix

theorem StartsLine.join {head text : String} (starts : StartsLine head text) {texts : List String}
    (member : text ∈ texts) : StartsLine head (String.join texts) := by
  obtain ⟨front, rest, rfl⟩ := List.append_of_mem member
  rw [String.join_append, String.join_cons]
  exact (starts.append_right _).append_left _

namespace ClientModule

def importText (entry : Import) : String := importTemplate.render .trimming entry

def modelText (model : ModelDecl) : String := modelTemplate.render .trimming model

def classText (declaration : ClassDecl) : String := classTemplate.render .trimming declaration

theorem text_eq (module : ClientModule) :
    module.text = String.join
      ["// @flow strict\nimport \x7b sendTwirpRequest \x7d from \"" ++ module.transport ++ "\";",
        String.join (module.imports.map importText), String.join (module.models.map modelText),
        String.join (module.classes.map classText), "\n"] := by
  have raw : module.text =
      "// @flow strict\nimport \x7b sendTwirpRequest \x7d from \"" ++ (module.transport ++ ("\";" ++
        (String.join (module.imports.map importText) ++
      ("" ++ (String.join (module.models.map modelText) ++
      ("" ++ (String.join (module.classes.map classText) ++ ("\n" ++ "")))))))) := rfl
  rw [raw, ← String.toList_inj]
  simp

/-- The two lines that import the types and the converters of a model. -/
def importLines (entry : Import) : List String :=
  ["import type \x7b " ++ entry.model ++ ", " ++ wireTypeName entry.model ++ " \x7d from \"" ++
      entry.specifier ++ "\";",
    "import \x7b " ++ serializerName entry.model ++ ", " ++ deserializerName entry.model ++
      " \x7d from \"" ++ entry.specifier ++ "\";"]

theorem importText_eq (entry : Import) :
    importText entry = String.join ((importLines entry).map ("\n" ++ ·)) := by
  have raw : importText entry =
      "\nimport type \x7b " ++ (entry.model ++ (", " ++ (entry.model ++ ("JSON \x7d from \"" ++
        (entry.specifier ++
      ("\";\nimport \x7b " ++ (entry.model ++ ("ToJSON, JSONTo" ++ (entry.model ++
        (" \x7d from \"" ++ (entry.specifier ++ ("\";" ++ "")))))))))))) := rfl
  rw [raw, ← String.toList_inj]
  simp [importLines, wireTypeName, serializerName, deserializerName]

/-- A declaration with one line for every member. -/
def block (head : String) (line : MemberDecl → String) (model : ModelDecl) (foot : String) :
    String :=
  "\n\nexport " ++ head ++ String.join (model.members.map line) ++ foot

theorem block_startsLine {head foot : String} {line : MemberDecl → String} {model : ModelDecl}
    (first rest : String) (parts : head = first ++ rest) :
    StartsLine ("export " ++ first) (block head line model foot) := by
  refine startsLine_of_eq "\n" (rest ++ String.join (model.members.map line) ++ foot) ?_
  rw [block, parts, ← String.toList_inj]
  simp

def typeText (model : ModelDecl) : String :=
  block ("type " ++ model.name ++ " = \x7b") (memberTemplate.render .trimming) model "\n\x7d"

def wireTypeText (model : ModelDecl) : String :=
  block ("type " ++ model.wireType ++ " = \x7b") (wireMemberTemplate.render .trimming) model
    "\n\x7d"

def serializerText (model : ModelDecl) : String :=
  block ("function " ++ serializerName model.name ++ "(m: " ++ model.name ++ "): " ++
    model.wireType ++ " \x7b\n  return \x7b") (serializedTemplate.render .trimming) model
    "\n  \x7d;\n\x7d"

def deserializerText (model : ModelDecl) : String :=
  block ("function " ++ deserializerName model.name ++ "(m: " ++ model.wireType ++ "): " ++
    model.name ++ " \x7b\n  return \x7b") (deserializedTemplate.render .trimming) model
    "\n  \x7d;\n\x7d"

theorem modelText_eq (model : ModelDecl) :
    modelText model = String.join [typeText model, wireTypeText model, serializerText model,
      deserializerText model] := by
  have raw : modelText model =
      "\n\nexport type " ++ (model.name ++ (" = \x7b" ++
        (String.join (model.members.map (memberTemplate.render .trimming)) ++
      ("\n\x7d\n\nexport type " ++ (model.wireType ++ (" = \x7b" ++
        (String.join (model.members.map (wireMemberTemplate.render .trimming)) ++
      ("\n\x7d\n\nexport function " ++ (model.name ++ ("ToJSON(m: " ++ (model.name ++ ("): " ++
        (model.wireType ++ (" \x7b\n  return \x7b" ++
        (String.join (model.members.map (serializedTemplate.render .trimming)) ++
      ("\n  \x7d;\n\x7d\n\nexport function JSONTo" ++ (model.name ++ ("(m: " ++
        (model.wireType ++ ("): " ++ (model.name ++ (" \x7b\n  return \x7b" ++
        (String.join (model.members.map (deserializedTemplate.render .trimming)) ++
      ("\n  \x7d;\n\x7d" ++ "")))))))))))))))))))))))) := rfl
  rw [raw, ← String.toList_inj]
  simp [typeText, wireTypeText, serializerText, deserializerText, block, serializerName,
    deserializerName]

end ClientModule

end FlowClients
