import FlowClients.Output
import FlowClients.Proofs.ClassText

/-!
The text of a module line by line. The lines are written down without tags and white space rules,
for any number of imports, models, fields, services and methods; the text of the module consists of
exactly these lines, each with a newline behind it.
-/

namespace FlowClients

/-! ### The lines -/

/-- An empty line, lines that open a declaration, one line for every field, and lines that close the
declaration. -/
def Model.blockLines (model : Model) (opening : List String) (line : Field → String)
    (closing : List String) : List String :=
  "" :: opening ++ model.fields.map line ++ closing

def Model.typeLines (model : Model) : List String :=
  model.blockLines ["export type " ++ model.name ++ " = \x7b"]
    (fun field => "  " ++ field.name ++ ": " ++ field.memberType ++ ";") ["\x7d"]

def Model.wireTypeLines (model : Model) : List String :=
  model.blockLines ["export type " ++ wireTypeName model.name ++ " = \x7b"]
    (fun field => "  " ++ field.wireName ++ "?: " ++ field.wireType ++ ";") ["\x7d"]

def Model.serializerLines (model : Model) : List String :=
  model.blockLines
    ["export function " ++ serializerName model.name ++ "(m: " ++ model.name ++ "): " ++
      wireTypeName model.name ++ " \x7b", "  return \x7b"]
    (fun field => "    " ++ field.wireName ++ ": " ++ field.serialized.text ++ ",")
    ["  \x7d;", "\x7d"]

def Model.deserializerLines (model : Model) : List String :=
  model.blockLines
    ["export function " ++ deserializerName model.name ++ "(m: " ++ wireTypeName model.name ++
      "): " ++ model.name ++ " \x7b", "  return \x7b"]
    (fun field => "    " ++ field.name ++ ": " ++ field.deserialized.text ++ ",")
    ["  \x7d;", "\x7d"]

def Model.lines (model : Model) : List String :=
  model.typeLines ++ model.wireTypeLines ++ model.serializerLines ++ model.deserializerLines

/-- An empty line and the lines of a call in each of its four shapes. -/
def Method.lines (method : Method) (shape : CallShape) : List String :=
  let parameter := if shape.takesArgument then method.argument ++ ": " ++ method.request else ""
  let result := if shape.hasResult then method.response else "void"
  let sent := if shape.takesArgument then "body" else "\x7b\x7d"
  ["", "  async " ++ method.name ++ "(" ++ parameter ++ "): Promise<" ++ result ++ "> \x7b",
    "    const url = this.hostname + this.pathPrefix + \"" ++ method.rpc ++ "\";"] ++
  (if shape.takesArgument then
    ["    const body: " ++ wireTypeName method.request ++ " = " ++
      serializerName method.request ++ "(" ++ method.argument ++ ");"]
  else []) ++
  (if shape.hasResult then
    ["    const data = await sendTwirpRequest(url, " ++ sent ++ ");",
      "    return " ++ deserializerName method.response ++ "(data);"]
  else ["    await sendTwirpRequest(url, " ++ sent ++ ");"]) ++
  ["  \x7d"]

/-- An empty line and the lines of a class. -/
def Service.lines (service : Service) (version : Version) (catalog : Catalog) : List String :=
  ["", "export class " ++ service.name ++ " \x7b",
    "  hostname: string;",
    "  pathPrefix = \"" ++ version.pathRoot ++ "/" ++ service.fullName ++ "/\";",
    "",
    "  constructor(hostname: string) \x7b",
    "    this.hostname = hostname;",
    "  \x7d"] ++
  service.methods.flatMap (fun method => method.lines (method.shape catalog)) ++
  ["\x7d"]

/-- The lines of a module: its header, its imports, the models that the language does not have, and
its services. -/
def Outline.lines (outline : Outline) (version : Version) (catalog : Catalog) : List String :=
  ["// @flow strict",
    "import \x7b sendTwirpRequest \x7d from \"" ++
      Specifier.between outline.file transportFile ++ "\";"] ++
  (outline.imports catalog).flatMap ClientModule.importLines ++
  (outline.models.filter (!·.builtin)).flatMap Model.lines ++
  outline.services.flatMap (·.lines version catalog)

/-! ### Lines in a text -/

/-- Lines as they follow other text, each on a new line. -/
def newLines (lines : List String) : String := String.join (lines.map ("\n" ++ ·))

@[simp] theorem toList_newLines (lines : List String) :
    (newLines lines).toList = lines.flatMap fun line => '\n' :: line.toList := by
  rw [newLines, String.toList_join, List.flatMap_map]
  simp

/-- Where every part is made of new lines, all parts are made of the new lines of all of them. -/
theorem join_newLines {α : Type} {text : α → String} {lines : α → List String}
    (written : ∀ a, text a = newLines (lines a)) (parts : List α) :
    String.join (parts.map text) = newLines (parts.flatMap lines) := by
  induction parts with
  | nil => rfl
  | cons part rest ih =>
    rw [List.map_cons, String.join_cons, ih, written, ← String.toList_inj]
    simp

/-- Lines that are ended one by one: the first one, new lines, and the end of the last one. -/
theorem join_ended (first : String) (rest : List String) :
    String.join ((first :: rest).map (· ++ "\n")) = first ++ newLines rest ++ "\n" := by
  induction rest generalizing first with
  | nil => simp [newLines]
  | cons second rest ih =>
    rw [List.map_cons, String.join_cons, ih, ← String.toList_inj]
    simp

namespace ClientModule

/-! ### Models -/

theorem block_lines {head foot : String} {opening closing : List String}
    {member : MemberDecl → String} {line : Field → String} (model : Model)
    (opens : "\nexport " ++ head = newLines opening) (closes : foot = newLines closing)
    (each : ∀ field : Field, member field.declaration = "\n" ++ line field) :
    block head member model.declaration foot =
      newLines (model.blockLines opening line closing) := by
  have members : String.join (model.declaration.members.map member) =
      newLines (model.fields.map line) := by
    rw [Model.declaration, List.map_map, newLines, List.map_map]
    exact congrArg String.join (List.map_congr_left fun field _ => each field)
  have opened : ("\nexport " ++ head).toList = (newLines opening).toList :=
    congrArg String.toList opens
  rw [block, members, closes, ← String.toList_inj]
  simp only [String.toList_append, toList_newLines] at opened
  simp [Model.blockLines, ← opened]

theorem typeText_lines (model : Model) :
    typeText model.declaration = newLines model.typeLines := by
  refine block_lines model ?_ rfl fun field => ?_
  · rw [← String.toList_inj]
    simp [Model.declaration]
  · have raw : memberTemplate.render .trimming field.declaration =
        "\n  " ++ (field.name ++ (": " ++ (field.memberType ++ (";" ++ "")))) := rfl
    rw [raw, ← String.toList_inj]
    simp

theorem wireTypeText_lines (model : Model) :
    wireTypeText model.declaration = newLines model.wireTypeLines := by
  refine block_lines model ?_ rfl fun field => ?_
  · rw [← String.toList_inj]
    simp [Model.declaration]
  · have raw : wireMemberTemplate.render .trimming field.declaration =
        "\n  " ++ (field.wireName ++ ("?: " ++ (field.wireType ++ (";" ++ "")))) := rfl
    rw [raw, ← String.toList_inj]
    simp

theorem serializerText_lines (model : Model) :
    serializerText model.declaration = newLines model.serializerLines := by
  refine block_lines model ?_ rfl fun field => ?_
  · rw [← String.toList_inj]
    simp [Model.declaration]
  · have raw : serializedTemplate.render .trimming field.declaration =
        "\n    " ++ (field.wireName ++ (": " ++ (field.serialized.text ++ ("," ++ "")))) := rfl
    rw [raw, ← String.toList_inj]
    simp

theorem deserializerText_lines (model : Model) :
    deserializerText model.declaration = newLines model.deserializerLines := by
  refine block_lines model ?_ rfl fun field => ?_
  · rw [← String.toList_inj]
    simp [Model.declaration]
  · have raw : deserializedTemplate.render .trimming field.declaration =
        "\n    " ++ (field.name ++ (": " ++ (field.deserialized.text ++ ("," ++ "")))) := rfl
    rw [raw, ← String.toList_inj]
    simp

theorem modelText_lines (model : Model) :
    modelText model.declaration = newLines model.lines := by
  rw [modelText_eq, typeText_lines, wireTypeText_lines, serializerText_lines,
    deserializerText_lines, ← String.toList_inj]
  simp [Model.lines]

/-! ### Classes -/

theorem address_line (call : CallDecl) : "    " ++ call.address.text =
    "    const url = this.hostname + this.pathPrefix + \"" ++ call.rpc ++ "\";" := by
  rw [addressText_eq, ← String.toList_inj]
  simp

theorem serialized_line (call : CallDecl) : "    " ++ call.serialized.text =
    "    const body: " ++ call.requestWireType ++ " = " ++ serializerName call.request ++ "(" ++
      call.argument ++ ");" := by
  rw [← String.toList_inj]
  simp [CallDecl.serialized, Statement.text]

theorem received_line (call : CallDecl) : "    " ++ call.received.text =
    "    const data = await sendTwirpRequest(url, " ++ call.body ++ ");" := by
  rw [CallDecl.received, Statement.text, sentText_eq, ← String.toList_inj]
  simp

theorem deserialized_line (call : CallDecl) : "    " ++ call.deserialized.text =
    "    return " ++ deserializerName call.response ++ "(data);" := by
  rw [← String.toList_inj]
  simp [CallDecl.deserialized, Statement.text]

theorem run_line (call : CallDecl) : "    " ++ (Statement.run call.sent).text =
    "    await sendTwirpRequest(url, " ++ call.body ++ ");" := by
  rw [Statement.text, sentText_eq, ← String.toList_inj]
  simp

/-- The head of a call, each of its statements and its end stand on new lines. -/
theorem callText_newLines (call : CallDecl) :
    callText call = newLines ("" :: ("  async " ++ call.name ++ "(" ++
      ", ".intercalate (call.parameters.map fun (name, type) => name ++ ": " ++ type) ++
      "): Promise<" ++ call.resultType ++ "> \x7b") ::
        call.statements.map ("    " ++ ·.text) ++ ["  \x7d"]) := by
  rw [callText_eq, CallDecl.definition, ← String.toList_inj]
  simp [List.flatMap_map]

theorem callText_lines (method : Method) (catalog : Catalog) :
    callText (method.declaration catalog) = newLines (method.lines (method.shape catalog)) := by
  rw [callText_newLines, CallDecl.statements, CallDecl.parameters, CallDecl.resultType]
  refine congrArg newLines ?_
  by_cases takes : (method.shape catalog).takesArgument = true <;>
    by_cases has : (method.shape catalog).hasResult = true <;>
    simp [address_line, serialized_line, received_line, deserialized_line, run_line,
      Method.declaration, Method.lines, CallDecl.body, takes, has]

theorem classText_lines (service : Service) (version : Version) (catalog : Catalog) :
    classText (service.declaration version catalog) =
      newLines (service.lines version catalog) := by
  have calls : String.join (((service.methods.map (·.declaration catalog)).map fun call =>
        (⟨"\n\n  async ", call.name, call.definition⟩ : ClassMember)).map ClassMember.text) =
      newLines (service.methods.flatMap fun method => method.lines (method.shape catalog)) := by
    rw [List.map_map, List.map_map]
    exact join_newLines (fun method =>
      (callText_eq _).symm.trans (callText_lines method catalog)) service.methods
  rw [classText_eq, ClassDecl.members, List.map_append, String.join_append, Service.declaration,
    calls, ← String.toList_inj]
  simp [Service.lines, ClassMember.text]

end ClientModule

/-- Whatever an outline lists, the catalog knows and the version is, the text of the module consists
of the lines of the module, each with one newline behind it. -/
theorem output_text_lines (outline : Outline) (version : Version) (catalog : Catalog) :
    (outline.output version catalog).text =
      String.join ((outline.lines version catalog).map (· ++ "\n")) := by
  have imports := join_newLines ClientModule.importText_eq (outline.imports catalog)
  have models := join_newLines ClientModule.modelText_lines (outline.models.filter (!·.builtin))
  have classes := join_newLines (ClientModule.classText_lines · version catalog) outline.services
  have text : (outline.output version catalog).text = String.join
      ["// @flow strict\nimport \x7b sendTwirpRequest \x7d from \"" ++
          Specifier.between outline.file transportFile ++ "\";",
        newLines ((outline.imports catalog).flatMap ClientModule.importLines),
        newLines ((outline.models.filter (!·.builtin)).flatMap Model.lines),
        newLines (outline.services.flatMap (·.lines version catalog)), "\n"] := by
    rw [← imports, ← models, ← classes]
    refine (ClientModule.text_eq (outline.clientModule version catalog)).trans ?_
    rw [Outline.clientModule, List.map_map, List.map_map]
    rfl
  rw [text, Outline.lines]
  simp only [List.cons_append]
  rw [join_ended, ← String.toList_inj]
  simp

/-- A module without imports, models and services has no empty line, nor one for a missing part. -/
example (version : Version) (catalog : Catalog) :
    (⟨"api/hats.js", [], []⟩ : Outline).lines version catalog =
      ["// @flow strict", "import \x7b sendTwirpRequest \x7d from \"../twirp\";"] := rfl

end FlowClients
