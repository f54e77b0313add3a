import FlowClients.ClientModule
import FlowClients.Template

/-!
The text of a client module: a header, the imports, four declarations for every model and a class
for every service. The tags of repeated parts stand on lines of their own, which they absorb.
-/

namespace FlowClients.ClientModule

open Template

/-- A repeated part whose two tags absorb the white space before them. -/
def lines {α β : Type} (items : α → List β) (body : Template β) (rest : Template α) : Template α :=
  .each .trimming items body .trimming rest

/-- One of two texts in the middle of a line. -/
def either {α : Type} (test : α → Bool) (yes no rest : Template α) : Template α :=
  .choose .plain test yes .plain no .plain rest

def importTemplate : Template Import :=
  .text "\nimport type \x7b " <| .value (·.model) <|
  .text ", " <| .value (·.model) <|
  .text "JSON \x7d from \"" <| .value (·.specifier) <|
  .text "\";\nimport \x7b " <| .value (·.model) <|
  .text "ToJSON, JSONTo" <| .value (·.model) <|
  .text " \x7d from \"" <| .value (·.specifier) <|
  .text "\";\n" .done

def memberTemplate : Template MemberDecl :=
  .text "\n  " <| .value (·.name) <|
  .text ": " <| .value (·.memberType) <|
  .text ";\n" .done

def wireMemberTemplate : Template MemberDecl :=
  .text "\n  " <| .value (·.wireName) <|
  .text "?: " <| .value (·.wireType) <|
  .text ";\n" .done

def serializedTemplate : Template MemberDecl :=
  .text "\n    " <| .value (·.wireName) <|
  .text ": " <| .value (·.serialized.text) <|
  .text ",\n" .done

def deserializedTemplate : Template MemberDecl :=
  .text "\n    " <| .value (·.name) <|
  .text ": " <| .value (·.deserialized.text) <|
  .text ",\n" .done

def modelTemplate : Template ModelDecl :=
  .text "\n\nexport type " <| .value (·.name) <|
  .text " = \x7b\n" <| lines (·.members) memberTemplate <|
  .text "\n\x7d\n\nexport type " <| .value (·.wireType) <|
  .text " = \x7b\n" <| lines (·.members) wireMemberTemplate <|
  .text "\n\x7d\n\nexport function " <| .value (·.name) <|
  .text "ToJSON(m: " <| .value (·.name) <|
  .text "): " <| .value (·.wireType) <|
  .text " \x7b\n  return \x7b\n" <| lines (·.members) serializedTemplate <|
  .text "\n  \x7d;\n\x7d\n\nexport function JSONTo" <| .value (·.name) <|
  .text "(m: " <| .value (·.wireType) <|
  .text "): " <| .value (·.name) <|
  .text " \x7b\n  return \x7b\n" <| lines (·.members) deserializedTemplate <|
  .text "\n  \x7d;\n\x7d\n" .done

def bodyTemplate : Template CallDecl :=
  .text "\n    const body: " <| .value (·.requestWireType) <|
  .text " = " <| .value (·.request) <|
  .text "ToJSON(" <| .value (·.argument) <|
  .text ");\n" .done

def resultTemplate : Template CallDecl :=
  .text "\n    const data = await sendTwirpRequest(url, " <| .value (·.body) <|
  .text ");\n    return JSONTo" <| .value (·.response) <|
  .text "(data);\n" .done

def noResultTemplate : Template CallDecl :=
  .text "\n    await sendTwirpRequest(url, " <| .value (·.body) <|
  .text ");\n" .done

def callTemplate : Template CallDecl :=
  .text "\n\n  async " <| .value (·.name) <|
  .text "(" <|
  either (·.shape.takesArgument)
    (.value (·.argument) <| .text ": " <| .value (·.request) .done) .done <|
  .text "): Promise<" <|
  either (·.shape.hasResult) (.value (·.response) .done) (.text "void" .done) <|
  .text "> \x7b\n    const url = this.hostname + this.pathPrefix + \"" <| .value (·.rpc) <|
  .text "\";\n" <|
  .choose .trimming (·.shape.takesArgument) bodyTemplate .trimming .done .trimming <|
  .text "\n" <|
  .choose .trimming (·.shape.hasResult) resultTemplate .trimming noResultTemplate .trimming <|
  .text "\n  \x7d\n" .done

def classTemplate : Template ClassDecl :=
  .text "\n\nexport class " <| .value (·.name) <|
  .text " \x7b\n  hostname: string;\n  pathPrefix = \"" <| .value (·.pathRoot) <|
  .text "\";\n\n  constructor(hostname: string) \x7b\n    this.hostname = hostname;\n  \x7d\n" <|
  lines (·.calls) callTemplate <|
  .text "\n\x7d\n" .done

def template : Template ClientModule :=
  .text "// @flow strict\nimport \x7b sendTwirpRequest \x7d from \"" <| .value (·.transport) <|
  .text "\";\n" <| lines (·.imports) importTemplate <|
  .text "\n" <| lines (·.models) modelTemplate <|
  .text "\n" <| lines (·.classes) classTemplate <|
  .text "\n" .done

def text (module : ClientModule) : String := template.render .plain module

end FlowClients.ClientModule
