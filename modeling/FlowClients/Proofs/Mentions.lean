import FlowClients.ClientModule
import FlowClients.Proofs.FlowTypes

/-!
The names of types and functions that stand in the text of a client module, and the names that are
in scope there: what the module declares, what it imports and what the language has.
-/

namespace FlowClients

inductive Mention
  | type (name : String)
  | function (name : String)
deriving DecidableEq

/-- The names that come with a model: its two types and its two converters. -/
def modelNames (model : String) : List Mention :=
  [.type model, .type (wireTypeName model), .function (serializerName model),
    .function (deserializerName model)]

/-- The names that need no declaration. -/
def builtinNames : List Mention :=
  [.type "string", .type "number", .type "boolean", .type "void", .type "Array", .type "Promise",
    .type "Date", .function "Date"]

/-- A character that stands between the names in the text of a type. -/
def joinsTypes (c : Char) : Bool := c == '?' || c == '<' || c == '>'

def typeNames (type : String) : List Mention :=
  ((type.toList.splitOnP joinsTypes).filter (!·.isEmpty)).map (.type <| String.ofList ·)

def Converter.functions : Converter → List Mention
  | .dateToText => []
  | .textToDate => [.function "Date"]
  | .toWire model => [.function (serializerName model)]
  | .fromWire model => [.function (deserializerName model)]

def Expr.functions : Expr → List Mention
  | .member _ | .constant _ => []
  | .convert converter value | .convertEach converter value =>
    converter.functions ++ value.functions
  | .ifPresent tested present absent => tested.functions ++ present.functions ++ absent.functions

def MemberDecl.mentions (member : MemberDecl) : List Mention :=
  typeNames member.memberType ++ typeNames member.wireType ++ member.serialized.functions ++
    member.deserialized.functions

/-- The converters mention both types of their model. -/
def ModelDecl.mentions (model : ModelDecl) : List Mention :=
  [.type model.name, .type model.wireType] ++ model.members.flatMap MemberDecl.mentions

def ModelDecl.declared (model : ModelDecl) : List Mention :=
  [.type model.name, .type model.wireType, .function (serializerName model.name),
    .function (deserializerName model.name)]

/-- What a call mentions besides the function of the transport module. -/
def CallDecl.mentions (call : CallDecl) : List Mention :=
  (if call.shape.takesArgument then
    [.type call.request, .type call.requestWireType, .function (serializerName call.request)]
  else []) ++
  .type "Promise" :: (if call.shape.hasResult then
    [.type call.response, .function (deserializerName call.response)]
  else [.type "void"])

/-- A class mentions the type of its host name. -/
def ClassDecl.mentions (declaration : ClassDecl) : List Mention :=
  .type "string" :: declaration.calls.flatMap CallDecl.mentions

namespace ClientModule

def mentions (module : ClientModule) : List Mention :=
  module.models.flatMap ModelDecl.mentions ++ module.classes.flatMap ClassDecl.mentions

def scope (module : ClientModule) : List Mention :=
  module.models.flatMap ModelDecl.declared ++ module.imports.flatMap (modelNames ·.model) ++
    builtinNames

end ClientModule

/-! ### The text of types -/

theorem typeNames_nullable (type : String) : typeNames ("?" ++ type) = typeNames type := by
  have text : ("?" ++ type).toList = '?' :: type.toList := by simp
  simp only [typeNames, text, List.splitOnP_cons_eq_if_modifyHead]
  rfl

theorem typeNames_listType (item : String) :
    typeNames (listType item) = .type "Array" :: typeNames item := by
  have text : (listType item).toList = "Array".toList ++ '<' :: (item.toList ++ '>' :: []) := by
    simp [listType]
  have inner : (item.toList ++ '>' :: []).splitOnP joinsTypes =
      item.toList.splitOnP joinsTypes ++ [[]] :=
    List.splitOnP_append_cons item.toList [] (by decide)
  have whole : (listType item).toList.splitOnP joinsTypes =
      "Array".toList :: (item.toList.splitOnP joinsTypes ++ [[]]) := by
    rw [text, List.splitOnP_append_cons _ _ (by decide), inner]
    rfl
  simp only [typeNames, whole]
  simp [List.filter_append]

/-- Whether the text of a type is at most one name. -/
def isTypeName (type : String) : Bool := type.toList.all (!joinsTypes ·)

theorem eq_of_mem_typeNames {type : String} {mention : Mention} (simple : isTypeName type = true)
    (member : mention ∈ typeNames type) : mention = .type type := by
  have apart : ∀ c ∈ type.toList, joinsTypes c = false := by
    simpa [isTypeName] using simple
  rw [typeNames, List.splitOnP_eq_singleton apart] at member
  obtain ⟨name, kept, rfl⟩ := List.mem_map.mp member
  rw [List.mem_singleton.mp (List.mem_filter.mp kept).1, String.ofList_toList]

theorem isTypeName_wireTypeName {model : String} (simple : isTypeName model = true) :
    isTypeName (wireTypeName model) = true := by
  simp only [isTypeName, wireTypeName, String.toList_append, List.all_append, Bool.and_eq_true]
  exact ⟨simple, by decide⟩

/-! ### The names that a field mentions -/

theorem mentions_builtinTypes : ∀ types ∈ builtinTypes,
    ∀ mention ∈ typeNames types.1 ++ typeNames types.2, mention ∈ builtinNames := by
  decide

theorem Field.mentions_serialized {field : Field} {mention : Mention}
    (member : mention ∈ field.serialized.functions) :
    ∃ converter, field.serializer? = some converter ∧ mention ∈ converter.functions := by
  cases found : field.serializer? with
  | none => simp [Field.serialized, found, Expr.functions] at member
  | some converter =>
    cases repeated : field.isRepeated <;>
      exact ⟨converter, rfl, by simpa [Field.serialized, found, repeated, Expr.functions] using member⟩

theorem Field.mentions_deserialized {field : Field} {mention : Mention}
    (member : mention ∈ field.deserialized.functions) :
    ∃ converter, field.deserializer? = some converter ∧ mention ∈ converter.functions := by
  cases dates : field.holdsDates with
  | true =>
    have found : field.deserializer? = some .textToDate := by simp [Field.deserializer?, dates]
    cases repeated : field.isRepeated <;>
      exact ⟨_, found, by
        simpa [Field.deserialized, found, dates, repeated, Expr.functions] using member⟩
  | false =>
    cases found : field.deserializer? with
    | none =>
      cases repeated : field.isRepeated <;> cases absent : absentScalar? field.type <;>
        simp [Field.deserialized, found, dates, repeated, absent, Expr.functions] at member
    | some converter =>
      cases repeated : field.isRepeated <;>
        exact ⟨converter, rfl, by
          simpa [Field.deserialized, found, dates, repeated, Expr.functions] using member⟩

namespace Schema.Field

variable {field : Schema.Field}

theorem mentions_converter {converter : Converter} {mention : Mention}
    (used : field.extract.serializer? = some converter ∨
      field.extract.deserializer? = some converter)
    (within : mention ∈ converter.functions) :
    mention ∈ builtinNames ∨
      ∃ type, field.kind.reference? = some type ∧ mention ∈ modelNames type := by
  rcases field.extract.converters with
    ⟨_, _, toWire, fromWire⟩ | ⟨name, type, _, _, toWire, fromWire⟩ | ⟨_, _, _, toWire, fromWire⟩
  all_goals
    rw [toWire, fromWire] at used
    rcases used with used | used <;> cases used
  · cases within
  · rw [List.mem_singleton.mp within]
    exact Or.inl (by decide)
  all_goals
    refine Or.inr ⟨name, reference?_of_model type, ?_⟩
    rw [List.mem_singleton.mp within]
    simp [modelNames]

theorem mentions_types {mention : Mention}
    (simple : ∀ type, field.kind.reference? = some type → isTypeName type = true)
    (named : mention ∈ typeNames field.kind.types.1 ++ typeNames field.kind.types.2) :
    mention ∈ builtinNames ∨
      ∃ type, field.kind.reference? = some type ∧ mention ∈ modelNames type := by
  cases refers : field.kind.reference? with
  | none => exact Or.inl (mentions_builtinTypes _ (FieldKind.types_builtin refers) mention named)
  | some type =>
    rw [FieldKind.types_of_reference refers] at named
    refine Or.inr ⟨type, rfl, ?_⟩
    rcases List.mem_append.mp named with memory | wire
    · rw [eq_of_mem_typeNames (simple type refers) memory]
      exact List.mem_cons_self
    · rw [eq_of_mem_typeNames (isTypeName_wireTypeName (simple type refers)) wire]
      exact List.mem_cons_of_mem _ List.mem_cons_self

theorem mentions_declaredTypes {mention : Mention}
    (named : mention ∈ typeNames field.extract.memberType ++ typeNames field.extract.wireType) :
    mention = .type "Array" ∨
      mention ∈ typeNames field.kind.types.1 ++ typeNames field.kind.types.2 := by
  have type : field.extract.type = (field.kind.fieldTypes field.isRepeated).1 := rfl
  have wireType : field.extract.wireType = (field.kind.fieldTypes field.isRepeated).2 := rfl
  have label : field.extract.isRepeated = field.isRepeated := rfl
  rw [FlowClients.Field.memberType, type, wireType, label] at named
  cases repeated : field.isRepeated
  · simp only [repeated, FieldKind.fieldTypes] at named
    refine Or.inr ?_
    cases held : field.extract.isMessage
    · simpa [held] using named
    · simpa [held, typeNames_nullable] using named
  · simp only [repeated, FieldKind.fieldTypes, Bool.not_true, Bool.and_false, if_true,
      Bool.false_eq_true, if_false, typeNames_listType, List.mem_append, List.mem_cons] at named
    rw [List.mem_append]
    tauto

/-- A field mentions names that the language has and the names that come with the model that it
refers to. -/
theorem mentions_declaration {mention : Mention}
    (simple : ∀ type, field.kind.reference? = some type → isTypeName type = true)
    (member : mention ∈ field.extract.declaration.mentions) :
    mention ∈ builtinNames ∨
      ∃ type, field.kind.reference? = some type ∧ mention ∈ modelNames type := by
  rcases List.mem_append.mp member with named | deserializer
  · rcases List.mem_append.mp named with types | serializer
    · rcases mentions_declaredTypes types with rfl | named
      · exact Or.inl (by decide)
      · exact mentions_types simple named
    · obtain ⟨converter, found, within⟩ := Field.mentions_serialized serializer
      exact mentions_converter (Or.inl found) within
  · obtain ⟨converter, found, within⟩ := Field.mentions_deserialized deserializer
    exact mentions_converter (Or.inr found) within

end Schema.Field

end FlowClients
