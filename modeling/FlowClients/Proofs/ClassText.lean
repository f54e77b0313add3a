import FlowClients.Proofs.ModuleText

/-!
The text of a class, member by member, and the text of a call, statement by statement. The names that
a class gives to its members, and those that a call binds or calls in its body, can be read off.
-/

namespace FlowClients

/-! ### Calls -/

inductive CallValue
  /-- The host, the path of the class and the last segment of the path. -/
  | url (rpc : String)
  | apply (function : String) (arguments : List String)
  | await (function : String) (arguments : List String)
deriving DecidableEq

inductive Statement
  | constant (name : String) (type : Option String) (value : CallValue)
  | answer (value : CallValue)
  | run (value : CallValue)
deriving DecidableEq

namespace CallValue

def text : CallValue → String
  | url rpc => "this.hostname + this.pathPrefix + \"" ++ rpc ++ "\""
  | apply function arguments => function ++ "(" ++ ", ".intercalate arguments ++ ")"
  | await function arguments => "await " ++ function ++ "(" ++ ", ".intercalate arguments ++ ")"

-- Stated by hand: the equations that are generated for the definition evaluate its strings.
@[simp] theorem text_url (rpc : String) :
    (url rpc).text = "this.hostname + this.pathPrefix + \"" ++ rpc ++ "\"" := rfl

@[simp] theorem text_apply (function : String) (arguments : List String) :
    (apply function arguments).text = function ++ "(" ++ ", ".intercalate arguments ++ ")" := rfl

@[simp] theorem text_await (function : String) (arguments : List String) :
    (await function arguments).text =
      "await " ++ function ++ "(" ++ ", ".intercalate arguments ++ ")" := rfl

def function? : CallValue → Option String
  | url _ => none
  | apply function _ | await function _ => some function

end CallValue

namespace Statement

def text : Statement → String
  | constant name none value => "const " ++ name ++ " = " ++ value.text ++ ";"
  | constant name (some type) value => "const " ++ name ++ ": " ++ type ++ " = " ++ value.text ++ ";"
  | answer value => "return " ++ value.text ++ ";"
  | run value => value.text ++ ";"

def constant? : Statement → Option String
  | constant name _ _ => some name
  | answer _ | run _ => none

def function? : Statement → Option String
  | constant _ _ value | answer value | run value => value.function?

end Statement

namespace CallDecl

/-- The parameters of a call with their types. -/
def parameters (call : CallDecl) : List (String × String) :=
  if call.shape.takesArgument then [(call.argument, call.request)] else []

def resultType (call : CallDecl) : String :=
  if call.shape.hasResult then call.response else "void"

/-- The statement that puts the address of the request together. -/
def address (call : CallDecl) : Statement := .constant "url" none (.url call.rpc)

def serialized (call : CallDecl) : Statement :=
  .constant "body" (some call.requestWireType) (.apply (serializerName call.request) [call.argument])

def sent (call : CallDecl) : CallValue := .await "sendTwirpRequest" ["url", call.body]

def received (call : CallDecl) : Statement := .constant "data" none call.sent

def deserialized (call : CallDecl) : Statement :=
  .answer (.apply (deserializerName call.response) ["data"])

def statements (call : CallDecl) : List Statement :=
  call.address :: (if call.shape.takesArgument then [call.serialized] else []) ++
    (if call.shape.hasResult then [call.received, call.deserialized] else [.run call.sent])

/-- What follows the name of a call. -/
def definition (call : CallDecl) : String :=
  "(" ++ ", ".intercalate (call.parameters.map fun (name, type) => name ++ ": " ++ type) ++
    "): Promise<" ++ call.resultType ++ "> \x7b" ++
    String.join (call.statements.map fun statement => "\n    " ++ statement.text) ++ "\n  \x7d"

end CallDecl

/-! ### Classes -/

/-- A member of a class: its name, with what stands before it and after it. -/
structure ClassMember where
  lead : String
  name : String
  definition : String
deriving DecidableEq

def ClassMember.text (member : ClassMember) : String :=
  member.lead ++ member.name ++ member.definition

def ClassDecl.members (declaration : ClassDecl) : List ClassMember :=
  [⟨"\n  ", "hostname", ": string;"⟩,
    ⟨"\n  ", "pathPrefix", " = \"" ++ declaration.pathRoot ++ "\";"⟩,
    ⟨"\n\n  ", "constructor",
      "(hostname: string) \x7b\n    this.hostname = hostname;\n  \x7d"⟩] ++
    declaration.calls.map fun call => ⟨"\n\n  async ", call.name, call.definition⟩

namespace ClientModule

open Template

def callText (call : CallDecl) : String := callTemplate.render .trimming call

theorem bodyText_eq (call : CallDecl) :
    bodyTemplate.render .trimming call = "\n    " ++ call.serialized.text := by
  have raw : bodyTemplate.render .trimming call =
      "\n    const body: " ++ (call.requestWireType ++ (" = " ++ (call.request ++ ("ToJSON(" ++
        (call.argument ++ (");" ++ "")))))) := rfl
  rw [raw, ← String.toList_inj]
  simp [CallDecl.serialized, Statement.text, serializerName]

theorem sentText_eq (call : CallDecl) :
    call.sent.text = "await sendTwirpRequest(url, " ++ call.body ++ ")" := by
  rw [← String.toList_inj]
  simp [CallDecl.sent, String.intercalate_cons_cons]

theorem resultText_eq (call : CallDecl) : resultTemplate.render .trimming call =
    "\n    " ++ call.received.text ++ ("\n    " ++ call.deserialized.text) := by
  have raw : resultTemplate.render .trimming call =
      "\n    const data = await sendTwirpRequest(url, " ++ (call.body ++ (");\n    return JSONTo" ++
        (call.response ++ ("(data);" ++ "")))) := rfl
  rw [raw, CallDecl.received, Statement.text, sentText_eq, ← String.toList_inj]
  simp [CallDecl.deserialized, Statement.text, deserializerName]

theorem noResultText_eq (call : CallDecl) : noResultTemplate.render .trimming call =
    "\n    " ++ (Statement.run call.sent).text := by
  have raw : noResultTemplate.render .trimming call =
      "\n    await sendTwirpRequest(url, " ++ (call.body ++ (");" ++ "")) := rfl
  rw [raw, Statement.text, sentText_eq, ← String.toList_inj]
  simp

theorem addressText_eq (call : CallDecl) : call.address.text =
    "const url = this.hostname + this.pathPrefix + \"" ++ call.rpc ++ "\";" := by
  rw [← String.toList_inj]
  simp [CallDecl.address, Statement.text]

/-- The text of a call in its four shapes. -/
theorem callText_eq (call : CallDecl) :
    callText call = "\n\n  async " ++ call.name ++ call.definition := by
  have raw : callText call =
      "\n\n  async " ++ (call.name ++ ("(" ++
        ((if call.shape.takesArgument then call.argument ++ (": " ++ (call.request ++ "")) else "") ++
      ("): Promise<" ++ ((if call.shape.hasResult then call.response ++ "" else "void" ++ "") ++
      ("> \x7b\n    const url = this.hostname + this.pathPrefix + \"" ++ (call.rpc ++ ("\";" ++
        ((if call.shape.takesArgument then bodyTemplate.render .trimming call else "") ++
      ("" ++ ((if call.shape.hasResult then resultTemplate.render .trimming call
        else noResultTemplate.render .trimming call) ++
      ("\n  \x7d" ++ "")))))))))))) := by
    have afterRpc : absorb .trimming "\";\n" = "\";" := rfl
    have between : absorb .trimming "\n" = "" := rfl
    have atEnd : absorb .trimming "\n  \x7d\n" = "\n  \x7d" := rfl
    simp only [callText, callTemplate, either, render, leadingTag, afterRpc, between, atEnd]
    rfl
  rw [raw, bodyText_eq, resultText_eq, noResultText_eq, CallDecl.definition, CallDecl.parameters,
    CallDecl.resultType, CallDecl.statements, ← String.toList_inj]
  cases takes : call.shape.takesArgument <;> cases has : call.shape.hasResult <;>
    simp [addressText_eq]

theorem classText_eq (declaration : ClassDecl) :
    classText declaration = "\n\nexport class " ++ declaration.name ++ " \x7b" ++
      String.join (declaration.members.map ClassMember.text) ++ "\n\x7d" := by
  have calls : declaration.calls.map callText =
      (declaration.calls.map fun call => (⟨"\n\n  async ", call.name, call.definition⟩ :
        ClassMember)).map ClassMember.text := by
    rw [List.map_map]
    exact List.map_congr_left fun call _ => callText_eq call
  have raw : classText declaration =
      "\n\nexport class " ++ (declaration.name ++
        (" \x7b\n  hostname: string;\n  pathPrefix = \"" ++ (declaration.pathRoot ++
      ("\";\n\n  constructor(hostname: string) \x7b\n    this.hostname = hostname;\n  \x7d" ++
        (String.join (declaration.calls.map callText) ++ ("\n\x7d" ++ "")))))) := rfl
  rw [raw, calls, ← String.toList_inj]
  simp [ClassDecl.members, ClassMember.text]

end ClientModule

end FlowClients
