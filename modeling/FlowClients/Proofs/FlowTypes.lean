import FlowClients.Conversion
import FlowClients.Extraction
import FlowClients.Proofs.Naming

/-!
The types of fields as they are declared: what the texts of the two types of a field stand for, which
converters go with them, and which of them come from references to messages.
-/

namespace FlowClients

inductive FlowType
  | string
  | number
  | boolean
  | date
  /-- A message in memory. -/
  | model (name : String)
  /-- A message on the wire. -/
  | wire (name : String)
  | list (item : FlowType)
  | nullable (type : FlowType)
deriving DecidableEq

namespace FlowType

def text : FlowType → String
  | string => "string"
  | number => "number"
  | boolean => "boolean"
  | date => timestampType
  | model name => name
  | wire name => wireTypeName name
  | list item => listType item.text
  | nullable type => "?" ++ type.text

/-- The type that values of a type have on the wire, where what is null is absent. -/
def onWire : FlowType → FlowType
  | date => string
  | model name => wire name
  | list item => list item.onWire
  | nullable type => type.onWire
  | type => type

def isScalar : FlowType → Bool
  | string | number | boolean => true
  | _ => false

theorem onWire_ne_nullable (type inner : FlowType) : type.onWire ≠ .nullable inner := by
  induction type with
  | nullable type ih => exact ih
  | _ => simp [onWire]

theorem onWire_of_isScalar {type : FlowType} (scalar : type.isScalar = true) :
    type.onWire = type := by
  cases type <;> first | rfl | cases scalar

/-- The converters to the wire and back that values of a type need. -/
inductive ConvertedBy : FlowType → Converter → Converter → Prop
  | date : ConvertedBy .date .dateToText .textToDate
  | model (name : String) : ConvertedBy (.model name) (.toWire name) (.fromWire name)

end FlowType

/-! ### The types of a field -/

namespace Field

def valueType (field : Field) : FlowType :=
  if field.holdsDates then .date
  else if field.isMessage then .model field.singleType
  else if field.singleType = "number" then .number
  else if field.singleType = "boolean" then .boolean
  else .string

/-- The type of the member in memory. Single messages and dates may be null. -/
def memoryType (field : Field) : FlowType :=
  if field.isRepeated then .list field.valueType
  else if field.isMessage then .nullable field.valueType
  else field.valueType

def onWire (field : Field) : FlowType := field.memoryType.onWire

/-- The type of single values decides which converters a field has. -/
theorem converters (field : Field) :
    (field.valueType = .date ∧ field.holdsDates = true ∧
      field.serializer? = some .dateToText ∧ field.deserializer? = some .textToDate) ∨
    (∃ name, field.valueType = .model name ∧ field.holdsDates = false ∧ field.isMessage = true ∧
      field.serializer? = some (.toWire name) ∧ field.deserializer? = some (.fromWire name)) ∨
    field.valueType.isScalar = true ∧ field.holdsDates = false ∧ field.isMessage = false ∧
      field.serializer? = none ∧ field.deserializer? = none := by
  cases dates : field.holdsDates with
  | true =>
    exact Or.inl (by simp [valueType, serializer?, deserializer?, dates])
  | false =>
    cases messages : field.isMessage with
    | true =>
      refine Or.inr (Or.inl ⟨field.singleType, ?_⟩)
      simp [valueType, serializer?, deserializer?, dates, messages]
    | false =>
      refine Or.inr (Or.inr ⟨?_, ?_⟩)
      · simp only [valueType, dates, messages, Bool.false_eq_true, if_false]
        split
        · rfl
        · split <;> rfl
      · simp [serializer?, deserializer?, dates, messages]

theorem valueType_ne_nullable (field : Field) (inner : FlowType) :
    field.valueType ≠ .nullable inner := by
  rcases field.converters with ⟨type, _⟩ | ⟨name, type, _⟩ | ⟨scalar, _⟩
  · simp [type]
  · simp [type]
  · intro same
    rw [same] at scalar
    cases scalar

theorem holdsDates_iff (field : Field) : field.holdsDates = true ↔ field.valueType = .date := by
  rcases field.converters with ⟨type, held, _⟩ | ⟨name, type, held, _⟩ | ⟨scalar, held, _⟩
  · simp [type, held]
  · simp [type, held]
  · have other : field.valueType ≠ .date := fun same => by
      rw [same] at scalar
      cases scalar
    simp [held, other]

/-- Either single values are converted both ways, or they are scalars and stay as they are. -/
theorem converted_or_scalar (field : Field) :
    (∃ toWire fromWire, field.valueType.ConvertedBy toWire fromWire ∧
      field.serializer? = some toWire ∧ field.deserializer? = some fromWire) ∨
    field.valueType.isScalar = true ∧ field.holdsDates = false ∧ field.isMessage = false ∧
      field.serializer? = none ∧ field.deserializer? = none := by
  rcases field.converters with ⟨type, _, toWire, fromWire⟩ | ⟨name, type, _, _, toWire, fromWire⟩ | scalar
  · exact Or.inl ⟨_, _, type ▸ .date, toWire, fromWire⟩
  · exact Or.inl ⟨_, _, type ▸ .model name, toWire, fromWire⟩
  · exact Or.inr scalar

theorem onWire_of_repeated (field : Field) (repeated : field.isRepeated = true) :
    field.onWire = .list field.valueType.onWire := by
  simp only [onWire, memoryType, repeated, if_true, FlowType.onWire]

theorem onWire_of_single (field : Field) (single : field.isRepeated = false) :
    field.onWire = field.valueType.onWire := by
  cases message : field.isMessage <;>
    simp [onWire, memoryType, single, message, FlowType.onWire]

variable {field : Field}

/-- Scalars have one of the types that defaults are known for. -/
def HasKnownScalars (field : Field) : Prop :=
  field.isMessage = false → field.singleType ∈ ["string", "number", "boolean"]

theorem absentScalar?_known (known : field.HasKnownScalars) (single : field.isRepeated = false)
    (noMessage : field.isMessage = false) :
    (field.valueType = .string ∧ absentScalar? field.type = some .emptyText) ∨
    (field.valueType = .number ∧ absentScalar? field.type = some .zero) ∨
    field.valueType = .boolean ∧ absentScalar? field.type = some .no := by
  have type : field.singleType = field.type := by simp [singleType, single]
  have scalar := known noMessage
  rw [type] at scalar
  simp only [List.mem_cons, List.not_mem_nil, or_false] at scalar
  rcases scalar with same | same | same
  · exact Or.inl (by
      simp [valueType, holdsDates, type, same, noMessage, timestampType, absentScalar?])
  · exact Or.inr (Or.inl (by
      simp [valueType, holdsDates, type, same, noMessage, timestampType, absentScalar?]))
  · exact Or.inr (Or.inr (by
      simp [valueType, holdsDates, type, same, noMessage, timestampType, absentScalar?]))

/-- No wire member is passed on unseen. -/
theorem deserialized_ne_member (known : field.HasKnownScalars) :
    field.deserialized ≠ .member field.wireName := by
  cases repeated : field.isRepeated with
  | true => simp [deserialized, repeated]
  | false =>
    rcases field.converters with
      ⟨_, dated, _⟩ | ⟨_, _, noDates, _, _, fromWire⟩ | ⟨_, noDates, noMessage, _, fromWire⟩
    · simp [deserialized, repeated, dated]
    · simp [deserialized, repeated, noDates, fromWire]
    · rcases absentScalar?_known known repeated noMessage with
        ⟨_, found⟩ | ⟨_, found⟩ | ⟨_, found⟩ <;>
        simp [deserialized, repeated, noDates, fromWire, found]

end Field

/-! ### The types of an extracted field -/

/-- The types that the language has, each with the type of its values on the wire. -/
def builtinTypes : List (String × String) :=
  [("string", "string"), ("number", "number"), ("boolean", "boolean"), (timestampType, "string")]

/-- The simple name of the message that a field refers to, unless it holds dates. -/
def FieldKind.reference? : FieldKind → Option String
  | .message fullName => if isTimestamp fullName then none else some (simpleName fullName)
  | _ => none

theorem FieldKind.types_of_reference {kind : FieldKind} {type : String}
    (refers : kind.reference? = some type) : kind.types = (type, wireTypeName type) := by
  unfold FieldKind.reference? at refers
  split at refers
  · split at refers
    · cases refers
    · rename_i proper
      cases refers
      exact if_neg proper
  · cases refers

theorem FieldKind.types_builtin {kind : FieldKind} (closed : kind.reference? = none) :
    kind.types ∈ builtinTypes := by
  cases kind with
  | scalar type => cases type <;> decide
  | message fullName =>
    simp only [FieldKind.reference?] at closed
    split at closed
    · rename_i dates
      simp [FieldKind.types, messageTypes, dates, builtinTypes]
    · cases closed
  | group fullName => simp [FieldKind.types, builtinTypes]
  | enum fullName => simp [FieldKind.types, builtinTypes]

namespace Schema.Field

variable {field : Schema.Field}

@[simp] theorem singleType_extract (field : Schema.Field) :
    field.extract.singleType = field.kind.types.1 := by
  cases repeated : field.isRepeated <;>
    simp [FlowClients.Field.singleType, extract, FieldKind.fieldTypes, repeated]

theorem valueType_extract (field : Schema.Field) :
    field.extract.valueType =
      if field.kind.types.1 = timestampType then .date
      else if field.kind.isMessage then .model field.kind.types.1
      else if field.kind.types.1 = "number" then .number
      else if field.kind.types.1 = "boolean" then .boolean
      else .string := by
  simp only [FlowClients.Field.valueType, FlowClients.Field.holdsDates, singleType_extract,
    beq_iff_eq]
  rfl

theorem reference?_of_model {name : String} (type : field.extract.valueType = .model name) :
    field.kind.reference? = some name := by
  rw [valueType_extract] at type
  cases kind : field.kind with
  | message fullName =>
    cases dates : isTimestamp fullName
    · by_cases named : simpleName fullName = timestampType
      · simp [kind, FieldKind.types, messageTypes, dates, named] at type
      · simpa [kind, FieldKind.types, messageTypes, dates, named, FieldKind.isMessage,
          FieldKind.reference?] using type
    · simp [kind, FieldKind.types, messageTypes, dates] at type
  | scalar scalar => rw [kind] at type; cases scalar <;> cases type
  | group | enum => rw [kind] at type; cases type

/-- The texts of the types in memory and on the wire, unless a message has the name of dates. -/
theorem valueType_text (proper : field.kind.reference? ≠ some timestampType) :
    (field.extract.valueType.text, field.extract.valueType.onWire.text) = field.kind.types := by
  rw [valueType_extract]
  cases kind : field.kind with
  | scalar type => cases type <;> rfl
  | message fullName =>
    cases dates : isTimestamp fullName
    · have other : simpleName fullName ≠ timestampType := by
        simpa [kind, FieldKind.reference?, dates] using proper
      simp [FieldKind.types, messageTypes, dates, other, FieldKind.isMessage, FlowType.onWire,
        FlowType.text]
    · simp [FieldKind.types, messageTypes, dates, FlowType.onWire, FlowType.text]
  | group fullName => rfl
  | enum fullName => rfl

theorem memberType_text (proper : field.kind.reference? ≠ some timestampType) :
    field.extract.memberType = field.extract.memoryType.text := by
  have text : field.extract.valueType.text = field.kind.types.1 :=
    congrArg Prod.fst (valueType_text proper)
  have type : field.extract.type = (field.kind.fieldTypes field.isRepeated).1 := rfl
  have message : field.extract.isMessage = field.kind.isMessage := rfl
  have label : field.extract.isRepeated = field.isRepeated := rfl
  cases repeated : field.isRepeated <;> cases held : field.kind.isMessage <;>
    simp [FlowClients.Field.memberType, FlowClients.Field.memoryType, FieldKind.fieldTypes,
      FlowType.text, type, message, label, repeated, held, text]

theorem wireType_text (proper : field.kind.reference? ≠ some timestampType) :
    field.extract.wireType = field.extract.onWire.text := by
  have text : field.extract.valueType.onWire.text = field.kind.types.2 :=
    congrArg Prod.snd (valueType_text proper)
  have type : field.extract.wireType = (field.kind.fieldTypes field.isRepeated).2 := rfl
  have message : field.extract.isMessage = field.kind.isMessage := rfl
  have label : field.extract.isRepeated = field.isRepeated := rfl
  cases repeated : field.isRepeated <;> cases held : field.kind.isMessage <;>
    simp [FlowClients.Field.onWire, FlowClients.Field.memoryType, FieldKind.fieldTypes,
      FlowType.onWire, FlowType.text, type, message, label, repeated, held, text]

theorem hasKnownScalars (field : Schema.Field) : field.extract.HasKnownScalars := by
  intro noMessage
  rw [singleType_extract]
  change field.kind.isMessage = false at noMessage
  cases kind : field.kind with
  | scalar type => cases type <;> decide
  | message fullName =>
    rw [kind] at noMessage
    cases noMessage
  | group fullName => exact List.mem_cons_self
  | enum fullName => exact List.mem_cons_self

end Schema.Field

end FlowClients
