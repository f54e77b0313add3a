import FlowClients.Pool.Names

/-!
Which definition a name refers to. Names are looked up from the innermost scope outwards, and what a
name refers to in the end has to be defined in a visible file.
-/

namespace FlowClients.Pool

/-- What a reference may lead to. -/
inductive Wanted
  | message
  /-- A message or an enum. -/
  | fieldType
deriving DecidableEq

def Wanted.accepts : Wanted → Meaning → Bool
  | _, .message _ => true
  | .fieldType, .enum _ => true
  | _, _ => false

def Wanted.refusal (fullName : String) : Wanted → Rejection
  | .message => .notMessage fullName
  | .fieldType => .notFieldType fullName

/-- Whether names can be scoped in what a name means. -/
def Meaning.encloses : Meaning → Bool
  | .leaf => false
  | _ => true

/-- What a file sees of the names of all files. -/
structure View where
  names : Names
  /-- The names of the visible files. -/
  visible : List String

inductive LookUp
  | missing
  | refused (cause : Rejection)
  | found (definition : Definition)

/-- Look up a full name. -/
def View.lookUp (view : View) (wanted : Wanted) (fullName : String) : LookUp :=
  match view.names.find? fullName with
  | none => .missing
  | some definition =>
    if definition.file ∉ view.visible then .refused (.undefinedName fullName)
    else if wanted.accepts definition.meaning then .found definition
    else .refused (wanted.refusal fullName)

/-- A scope and all scopes around it, the innermost first and the outermost, which has no name,
last. -/
def scopes (scope : String) : List String :=
  let parts := scope.toList.splitOn '.'
  (List.range (parts.length + 1)).reverse.map fun n =>
    String.ofList (['.'].intercalate (parts.take n))

/-- A name without dots: the first scope that holds a fitting definition, else the first that holds
any. -/
def View.resolveSimple (view : View) (wanted : Wanted) (scope name : String) :
    Except Rejection Definition :=
  let hits := (scopes scope).map fun outer => view.lookUp wanted (qualify outer name)
  let found? : LookUp → Option Definition
    | .found definition => some definition
    | _ => none
  let refused? : LookUp → Option Rejection
    | .refused cause => some cause
    | _ => none
  match hits.findSome? found? with
  | some definition => .ok definition
  | none => .error ((hits.findSome? refused?).getD (.undefinedName name))

/-- A name with dots: the first scope where its first part encloses names decides, whether that part
is visible or not. -/
def View.resolveDotted (view : View) (wanted : Wanted) (scope first name : String) :
    Except Rejection Definition :=
  let decides (outer : String) : Bool :=
    (view.names.find? (qualify outer first)).any (·.meaning.encloses)
  match (scopes scope).find? decides with
  | none => .error (.undefinedName name)
  | some outer =>
    match view.lookUp wanted (qualify outer name) with
    | .missing => .error (.undefinedInScope name (qualify outer name))
    | .refused cause => .error cause
    | .found definition => .ok definition

/-- Resolve a name that stands in an element with the full name `scope`. A leading dot makes it a
full name. -/
def View.resolve (view : View) (wanted : Wanted) (scope name : String) :
    Except Rejection Definition :=
  match name.toList with
  | '.' :: fullName =>
    match view.lookUp wanted (String.ofList fullName) with
    | .missing => .error (.undefinedName name)
    | .refused cause => .error cause
    | .found definition => .ok definition
  | text =>
    match text.span (· != '.') with
    | (_, []) => view.resolveSimple wanted scope name
    | (first, _) => view.resolveDotted wanted scope (String.ofList first) name

/-- What a field holds, if it stands in an element with the full name `scope`. -/
def View.fieldKind (view : View) (scope : String) (path : Path) (field : FieldDescriptor) :
    Except Rejection FieldKind :=
  if field.typeName = "" then
    if field.type.needsTypeName then .error (.typeNameMissing path) else .ok (.scalar field.type)
  else do
    let target ← view.resolve .fieldType scope field.typeName
    match target.meaning with
    | .enum _ => return .enum target.fullName
    | _ => return if field.type = .group then .group target.fullName else .message target.fullName

end FlowClients.Pool
