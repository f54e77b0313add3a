import FlowClients.Pool.DefaultText
import FlowClients.Pool.Resolve
import FlowClients.Pool.Visible

/-!
What has to hold of every element once all names are known: references resolve, numbers are free and
in range, defaults are values of their types.
-/

namespace FlowClients.Pool

/-- The word capitalized after every underscore, without underscores. -/
def joinWords (capital : Bool) : List Char → List Char
  | [] => []
  | c :: cs =>
    if c = '_' then joinWords true cs
    else (if capital then c.toUpper else c) :: joinWords false cs

/-- The name of a field in JSON texts. -/
def effectiveJsonName (field : FieldDescriptor) : String :=
  field.jsonName.getD (String.ofList (joinWords false field.name.toList))

def isFieldNumber (n : Int) : Bool := 1 ≤ n && n ≤ 536870911 && !(19000 ≤ n && n ≤ 19999)

/-- A field number is legal and free in the message that the field belongs to. -/
def checkNumber (owner : MessageDescriptor) (field : FieldDescriptor) : Except Rejection Unit := do
  if !isFieldNumber field.number then throw (.fieldNumber field.number)
  if let some range := owner.reservedRanges.find? (·.contains field.number) then
    throw (.reservedFieldNumber field.number range)
  if field.extendee.isNone then
    if let some range := owner.extensionRanges.find? (·.contains field.number) then
      throw (.extensionFieldNumber field.number range)

/-- How the kind of a field is called where its default value is refused. -/
def kindText : FieldKind → String
  | .scalar type => type.name
  | .enum fullName => fullName
  | .message _ | .group _ => "message type"

def View.isDefault (view : View) (kind : FieldKind) (text : String) : Bool :=
  match kind with
  | .scalar type => Pool.isDefault type text
  | .enum fullName => match view.names.find? fullName with
    | some ⟨_, _, .enum descriptor⟩ => descriptor.values.any (·.name == text)
    | _ => false
  | .message _ | .group _ => false

/-- The type of a field resolves, and its default value fits it. -/
def View.checkType (view : View) (scope : String) (path : Path) (field : FieldDescriptor) :
    Except Rejection Unit := do
  let kind ← view.fieldKind (qualify scope field.name) (path ++ [6]) field
  if let some text := field.defaultValue then
    if !view.isDefault kind text then throw (.defaultValue text (kindText kind))

def checkOneof (owner : MessageDescriptor) (field : FieldDescriptor) : Except Rejection Unit :=
  match field.oneofIndex with
  | none => .ok ()
  | some index => if 0 ≤ index ∧ index < owner.oneofs.length then .ok () else .error .oneofIndex

/-- No earlier field of the message has the number or the JSON name. -/
def checkDistinct (earlier : List FieldDescriptor) (field : FieldDescriptor) :
    Except Rejection Unit :=
  if earlier.any (·.number == field.number) then .error (.fieldNumberUsed field.number)
  else if earlier.any (effectiveJsonName · == effectiveJsonName field) then
    .error (.jsonNameUsed (field.jsonName.getD ""))
  else .ok ()

def checkExtensionNumber (fullName : String) (owner : MessageDescriptor) (field : FieldDescriptor) :
    Except Rejection Unit := do
  checkNumber owner field
  if !owner.extensionRanges.any (·.contains field.number) then
    throw (.notAnExtensionNumber fullName field.number)

def checkEnumValue (owner : EnumDescriptor) (earlier : List EnumValueDescriptor)
    (value : EnumValueDescriptor) : Except Rejection Unit :=
  match owner.reservedRanges.find? (·.containsToEnd value.number) with
  | some range => .error (.reservedEnumNumber value.number range)
  | none =>
    if !owner.allowAlias && earlier.any (·.number == value.number) then
      .error (.enumNumberUsed value.number)
    else .ok ()

/-- All dependencies are files of the set, and public and weak ones are dependencies. -/
def checkImports (known : List String) (file : FileDescriptor) : Except Rejection Unit := do
  if let some name := file.dependencies.find? (· ∉ known) then throw (.importNotAdded name)
  if (file.publicDependencies ++ file.weakDependencies).any
      (fun position => !(0 ≤ position && position < file.dependencies.length)) then
    throw .importIndex

def Element.check (file : FileDescriptor) (view : View) (element : Element) :
    Except Rejection Unit :=
  match element.declaration with
  | .file => checkImports view.names.files file
  | .field owner path earlier field => do
    checkNumber owner field
    view.checkType element.scope path field
    checkOneof owner field
    checkDistinct earlier field
  | .extension path field => do
    let target ← view.resolve .message (qualify element.scope field.name) (field.extendee.getD "")
    if let .message owner := target.meaning then checkExtensionNumber target.fullName owner field
    view.checkType element.scope path field
  | .enumValue owner earlier value => checkEnumValue owner earlier value
  | .method method => do
    discard <| view.resolve .message (qualify element.scope method.name) method.inputType
    discard <| view.resolve .message (qualify element.scope method.name) method.outputType
  | .message _ | .oneof _ | .enum _ | .service _ => .ok ()

def viewOf (names : Names) (files : List FileDescriptor) (file : FileDescriptor) : View :=
  ⟨names, visibleFiles files file⟩

def checkFile (names : Names) (files : List FileDescriptor) (file : FileDescriptor) :
    Except Rejection Unit :=
  (fileElements file).forM (Element.check file (viewOf names files file))

end FlowClients.Pool
