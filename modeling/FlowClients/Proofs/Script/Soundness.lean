import FlowClients.Proofs.Script.RoundTrip

/-!
Converters keep to the declared types. A serializer makes of every message an object of its type on
the wire; a deserializer makes of every such object, whatever members it leaves out, a message, and
puts the defaults of their types in the place of absent members.
-/

namespace FlowClients

open Script

variable {D : Type} {dates : Dates D}

/-- What deserialization puts in the place of an absent member of a type. -/
def FlowType.IsDefault : FlowType → Value D → Prop
  | .string, value => value = .text ""
  | .number, value => value = .number 0
  | .boolean, value => value = .boolean false
  | .list _, value => value = .array []
  | .date, value | .nullable .date, value => value = .invalidDate ∨ ∃ date, value = .date date
  | .model _, value | .wire _, value | .nullable _, value => value = .null

namespace Script

/-- The values that types describe before they are serialized: dates are valid and may be missing. -/
def validDates : DateRules := ⟨false, true⟩

/-- The values that types describe after they are deserialized: dates are there and may be invalid.
-/
def setDates : DateRules := ⟨true, false⟩

def ModelSerializes (dates : Dates D) (models : List Model) (name : String)
    (value : Value D) : Prop :=
  ∃ wire, Returns dates (models.map Model.declaration) (.toWire name) value wire ∧
    HasType validDates models (.wire name) wire

def ModelDeserializes (dates : Dates D) (models : List Model) (name : String)
    (wire : Value D) : Prop :=
  ∃ value, Returns dates (models.map Model.declaration) (.fromWire name) wire value ∧
    HasType setDates models (.model name) value

variable {models : List Model}

theorem HasType.of_scalar {type : FlowType} {value : Value D} {rules others : DateRules}
    (scalar : type.isScalar = true) (typed : HasType rules models type value) :
    HasType others models type value := by
  cases typed with
  | text value => exact .text value
  | number value => exact .number value
  | boolean value => exact .boolean value
  | _ => cases scalar

theorem serializes_of_typed {type : FlowType} {there back : Converter} {value : Value D}
    (converts : type.ConvertedBy there back) (typed : HasType validDates models type value)
    (objects : type.Objects (ModelSerializes dates models) (fun _ _ => True) value) :
    ∃ wire, Returns dates (models.map Model.declaration) there value wire ∧
      HasType validDates models type.onWire wire := by
  cases converts with
  | date =>
    cases typed with
    | date point => exact ⟨.text (dates.isoText point), .dateToText point, .text _⟩
    | invalidDate allowed => cases allowed
  | model name => exact objects

theorem HasType.constructed (wire : Value D) :
    HasType setDates models .date ((dates.construct wire).elim .invalidDate .date) := by
  cases dates.construct wire with
  | none => exact .invalidDate rfl
  | some point => exact .date point

theorem deserializes_of_objects {type : FlowType} {there back : Converter} {wire : Value D}
    (converts : type.ConvertedBy there back)
    (objects : type.onWire.Objects (fun _ _ => True) (ModelDeserializes dates models) wire) :
    ∃ value, Returns dates (models.map Model.declaration) back wire value ∧
      HasType setDates models type value := by
  cases converts with
  | date => exact ⟨_, .textToDate wire, .constructed wire⟩
  | model name => exact objects

end Script

/-! ### Fields -/

namespace Field

variable {models : List Model} {field : Field}

/-- A member of its type is serialized to one of its type on the wire, or to an absent one. -/
theorem serializes {value : Value D} (typed : HasType validDates models field.memoryType value)
    (objects : field.memoryType.Objects (ModelSerializes dates models) (fun _ _ => True) value) :
    ∃ wire, (∀ m : Value D, m.member field.name = .ok value →
        Evaluates dates (models.map Model.declaration) m field.serialized wire) ∧
      (wire ≠ .undefined → HasType validDates models field.onWire wire) := by
  rcases field.memory_cases typed objects with
    ⟨items, repeated, rfl, each⟩ | ⟨single, message, rfl, _⟩ | ⟨single, typed, objects⟩
  · rw [field.onWire_of_repeated repeated]
    rcases field.converted_or_scalar with
      ⟨there, back, converts, toWire, _⟩ | ⟨scalar, _, _, toWire, _⟩
    · obtain ⟨wires, pairs⟩ := exists_forall₂ fun item member =>
        serializes_of_typed converts (each item member).1 (each item member).2
      refine ⟨.array wires, fun m read => serialized_list toWire repeated read
        (pairs.imp fun _ _ pair => pair.1), fun _ => .list fun wire member => ?_⟩
      obtain ⟨_, _, pair⟩ := exists_of_mem_forall₂ pairs member
      exact pair.2
    · refine ⟨.array items, fun m read => serialized_plain toWire read, fun _ => ?_⟩
      rw [FlowType.onWire_of_isScalar scalar]
      exact .list fun item member => (each item member).1
  · rcases field.converted_or_scalar with ⟨there, back, _, toWire, _⟩ | ⟨_, _, noMessage, _⟩
    · exact ⟨.undefined, fun m read => serialized_absent toWire single read rfl,
        fun present => absurd rfl present⟩
    · rw [message] at noMessage
      cases noMessage
  · rw [field.onWire_of_single single]
    rcases field.converted_or_scalar with
      ⟨there, back, converts, toWire, _⟩ | ⟨scalar, _, _, toWire, _⟩
    · obtain ⟨wire, run, wireTyped⟩ := serializes_of_typed converts typed objects
      have valueHeld := typed.isPresent field.valueType_ne_nullable
      exact ⟨wire, fun m read => serialized_single toWire single read valueHeld run,
        fun _ => wireTyped⟩
    · refine ⟨value, fun m read => serialized_plain toWire read, fun _ => ?_⟩
      rwa [FlowType.onWire_of_isScalar scalar]

theorem default_of_scalar (known : field.HasKnownScalars) (single : field.isRepeated = false)
    (noMessage : field.isMessage = false) :
    ∃ default, absentScalar? field.type = some default ∧
      HasType (D := D) setDates models field.valueType (constantValue default) ∧
      field.valueType.IsDefault (constantValue (D := D) default) := by
  rcases absentScalar?_known known single noMessage with
    ⟨type, found⟩ | ⟨type, found⟩ | ⟨type, found⟩ <;> rw [type]
  · exact ⟨.emptyText, found, .text "", rfl⟩
  · exact ⟨.zero, found, .number 0, rfl⟩
  · exact ⟨.no, found, .boolean false, rfl⟩

theorem deserializes_absent (known : field.HasKnownScalars) :
    ∃ value, (∀ m : Value D, m.member field.wireName = .ok .undefined →
        Evaluates dates (models.map Model.declaration) m field.deserialized value) ∧
      HasType setDates models field.memoryType value ∧ field.memoryType.IsDefault value := by
  cases repeated : field.isRepeated with
  | true =>
    simp only [memoryType, repeated, if_true]
    exact ⟨.array [], fun m read => deserialized_noList repeated read rfl,
      .list fun item member => absurd member List.not_mem_nil, rfl⟩
  | false =>
    rcases field.converters with
      ⟨type, dated, _⟩ | ⟨name, type, noDates, message, _, fromWire⟩ |
        ⟨scalar, noDates, noMessage, _, fromWire⟩
    · have isDate : ∀ constructed : Option D,
          (constructed.elim .invalidDate .date : Value D) = .invalidDate ∨
            ∃ date, (constructed.elim .invalidDate .date : Value D) = .date date := by
        intro constructed
        cases constructed with
        | none => exact Or.inl rfl
        | some date => exact Or.inr ⟨date, rfl⟩
      refine ⟨_, fun m read => deserialized_date repeated dated read, ?_⟩
      cases message : field.isMessage <;>
        simp only [memoryType, repeated, message, type, Bool.false_eq_true, if_false, if_true]
      · exact ⟨.constructed .undefined, isDate _⟩
      · exact ⟨.held (.constructed .undefined), isDate _⟩
    · simp only [memoryType, repeated, message, type, Bool.false_eq_true, if_false, if_true]
      exact ⟨.null, fun m read => deserialized_null repeated noDates fromWire read rfl,
        .null fun other => (by cases other), rfl⟩
    · obtain ⟨default, found, typed, isDefault⟩ := default_of_scalar known repeated noMessage
      simp only [memoryType, repeated, noMessage, Bool.false_eq_true, if_false]
      exact ⟨_, fun m read => deserialized_default repeated noDates fromWire found read rfl,
        typed, isDefault⟩

theorem deserializes {rules : DateRules} {wire : Value D}
    (typed : HasType rules models field.onWire wire)
    (objects : field.onWire.Objects (fun _ _ => True) (ModelDeserializes dates models) wire) :
    ∃ value, (∀ m : Value D, m.member field.wireName = .ok wire →
        Evaluates dates (models.map Model.declaration) m field.deserialized value) ∧
      HasType setDates models field.memoryType value := by
  have wireHeld := typed.isPresent (FlowType.onWire_ne_nullable field.memoryType)
  cases repeated : field.isRepeated with
  | true =>
    rw [field.onWire_of_repeated repeated] at typed objects
    simp only [memoryType, repeated, if_true]
    obtain ⟨items, rfl, each⟩ := typed.array
    rcases field.converted_or_scalar with
      ⟨there, back, converts, _, fromWire⟩ | ⟨scalar, _, _, _, fromWire⟩
    · obtain ⟨values, pairs⟩ := exists_forall₂ fun item member =>
        deserializes_of_objects converts (objects items rfl item member)
      refine ⟨.array values, fun m read => deserialized_list repeated fromWire read
        (pairs.imp fun _ _ pair => pair.1), .list fun value member => ?_⟩
      obtain ⟨_, _, pair⟩ := exists_of_mem_forall₂ pairs member
      exact pair.2
    · refine ⟨.array items, fun m read => deserialized_plainList repeated fromWire read rfl, ?_⟩
      rw [FlowType.onWire_of_isScalar scalar] at each
      exact .list fun item member => (each item member).of_scalar scalar
  | false =>
    rw [field.onWire_of_single repeated] at typed objects
    have value : ∃ value, (∀ m : Value D, m.member field.wireName = .ok wire →
        Evaluates dates (models.map Model.declaration) m field.deserialized value) ∧
        HasType setDates models field.valueType value := by
      rcases field.converted_or_scalar with
        ⟨there, back, converts, _, fromWire⟩ | ⟨scalar, noDates, _, _, fromWire⟩
      · obtain ⟨value, run, valueTyped⟩ := deserializes_of_objects converts objects
        exact ⟨value, fun m read => deserialized_single repeated fromWire read wireHeld run,
          valueTyped⟩
      · rw [FlowType.onWire_of_isScalar scalar] at typed
        exact ⟨wire, fun m read => deserialized_plain repeated noDates fromWire read wireHeld,
          typed.of_scalar scalar⟩
    obtain ⟨value, run, valueTyped⟩ := value
    refine ⟨value, run, ?_⟩
    cases message : field.isMessage <;>
      simp only [memoryType, repeated, message, Bool.false_eq_true, if_false, if_true]
    · exact valueTyped
    · exact .held valueTyped

end Field

/-! ### Messages -/

section Messages

variable {models : List Model} {model : Model} {get : String → Option (Value D)}

theorem Model.serializes (distinct : DistinctNames models) (known : model ∈ models)
    (keys : ∀ key, (get key).isSome = true ↔ key ∈ model.fields.map (·.name))
    (each : ∀ field ∈ model.fields, ∀ value, get field.name = some value →
      HasType validDates models field.memoryType value ∧
        field.memoryType.Objects (ModelSerializes dates models) (fun _ _ => True) value) :
    ModelSerializes dates models model.name (.object get) := by
  have members : ∀ field ∈ model.fields, ∃ wire : Value D,
      Evaluates dates (models.map Model.declaration) (.object get) field.serialized wire ∧
        (wire ≠ .undefined → HasType validDates models field.onWire wire) := by
    intro field member
    obtain ⟨value, found⟩ :=
      Option.isSome_iff_exists.mp ((keys field.name).mpr (List.mem_map_of_mem member))
    obtain ⟨typed, objects⟩ := each field member value found
    obtain ⟨wire, run, wireTyped⟩ := Field.serializes typed objects
    exact ⟨wire, run _ (by simp [Value.member, found]), wireTyped⟩
  obtain ⟨wireGet, wires, only⟩ :=
    exists_members Field.wireName _ (distinct.ofWireMembers model known) members
  refine ⟨.object wireGet, .serialized distinct known (fun field member => ?_) only,
    .wire known fun field member wire found held => ?_⟩
  · obtain ⟨wire, found, run, _⟩ := wires field member
    exact ⟨wire, found, run⟩
  · obtain ⟨same, sameFound, _, typed⟩ := wires field member
    rw [found] at sameFound
    cases sameFound
    exact typed held

/-- The members of a message that was deserialized have their types, and those without a wire
member are defaults. -/
theorem Model.deserializes {rules : DateRules} (distinct : DistinctNames models)
    (known : model ∈ models) (scalars : ∀ field ∈ model.fields, field.HasKnownScalars)
    (each : ∀ field ∈ model.fields, ∀ wire, get field.wireName = some wire → wire ≠ .undefined →
      HasType rules models field.onWire wire ∧
        field.onWire.Objects (fun _ _ => True) (ModelDeserializes dates models) wire) :
    ∃ memoryGet : String → Option (Value D),
      Returns dates (models.map Model.declaration) (.fromWire model.name) (.object get)
        (.object memoryGet) ∧
      HasType setDates models (.model model.name) (.object memoryGet) ∧
      ∀ field ∈ model.fields, (get field.wireName).getD .undefined = .undefined →
        ∃ value, memoryGet field.name = some value ∧ field.memoryType.IsDefault value := by
  have members : ∀ field ∈ model.fields, ∃ value : Value D,
      Evaluates dates (models.map Model.declaration) (.object get) field.deserialized value ∧
        HasType setDates models field.memoryType value ∧
        ((get field.wireName).getD .undefined = .undefined → field.memoryType.IsDefault value) := by
    intro field member
    -- A member that is undefined is as absent as one that is not there.
    by_cases absent : (get field.wireName).getD .undefined = .undefined
    · obtain ⟨value, run, typed, isDefault⟩ :=
        Field.deserializes_absent (scalars field member)
      exact ⟨value, run _ (by simp [Value.member, absent]), typed, fun _ => isDefault⟩
    · obtain ⟨wire, found⟩ : ∃ wire, get field.wireName = some wire := by
        cases found : get field.wireName with
        | none => exact absurd (by rw [found]; rfl) absent
        | some wire => exact ⟨wire, rfl⟩
      have held : wire ≠ .undefined := by simpa [found] using absent
      obtain ⟨typed, objects⟩ := each field member wire found held
      obtain ⟨value, run, valueTyped⟩ := Field.deserializes typed objects
      exact ⟨value, run _ (by simp [Value.member, found]), valueTyped,
        fun missing => absurd missing absent⟩
  obtain ⟨memoryGet, values, only⟩ :=
    exists_members Field.name _ (distinct.ofMembers model known) members
  refine ⟨memoryGet, .deserialized distinct known (fun field member => ?_) only,
    .memory known (fun key => ⟨fun present => ?_, fun member => ?_⟩)
      fun field member value found => ?_, fun field member absent => ?_⟩
  · obtain ⟨value, found, run, _⟩ := values field member
    exact ⟨value, found, run⟩
  · by_contra absent
    rw [only key absent] at present
    cases present
  · obtain ⟨field, fieldMember, rfl⟩ := List.mem_map.mp member
    obtain ⟨value, found, _⟩ := values field fieldMember
    rw [found]
    rfl
  · obtain ⟨same, sameFound, _, typed, _⟩ := values field member
    rw [found] at sameFound
    cases sameFound
    exact typed
  · obtain ⟨value, found, _, _, isDefault⟩ := values field member
    exact ⟨value, found, isDefault absent⟩

theorem serialize_typed (distinct : DistinctNames models) {name : String} {value : Value D}
    (typed : HasType validDates models (.model name) value) :
    ∃ wire, Returns dates (models.map Model.declaration) (.toWire name) value wire ∧
      HasType validDates models (.wire name) wire := by
  have objects : FlowType.Objects (ModelSerializes dates models) (fun _ _ => True) (.model name)
      value :=
    typed.objects (fun _ known _ keys each => Model.serializes distinct known keys each)
      fun _ _ _ _ => trivial
  exact objects

/-- The deserializer of a model makes a message of every object of its type on the wire, with
defaults for the members that are absent. -/
theorem deserialize_typed {rules : DateRules} (distinct : DistinctNames models)
    (scalars : ∀ model ∈ models, ∀ field ∈ model.fields, field.HasKnownScalars)
    (known : model ∈ models) {wire : Value D}
    (typed : HasType rules models (.wire model.name) wire) :
    ∃ value, Returns dates (models.map Model.declaration) (.fromWire model.name) wire value ∧
      HasType setDates models (.model model.name) value ∧
      ∀ field ∈ model.fields, wire.member field.wireName = .ok .undefined →
        ∃ part, value.member field.name = .ok part ∧ field.memoryType.IsDefault part := by
  have nested {type : FlowType} {part : Value D} (typed : HasType rules models type part) :
      type.Objects (fun _ _ => True) (ModelDeserializes dates models) part := by
    refine typed.objects (fun _ _ _ _ _ => trivial) fun model known get each => ?_
    obtain ⟨memoryGet, run, memoryTyped, _⟩ :=
      Model.deserializes distinct known (scalars model known) each
    exact ⟨.object memoryGet, run, memoryTyped⟩
  obtain ⟨same, sameKnown, name, get, rfl, each⟩ := typed.wire_object
  have equal := List.inj_on_of_nodup_map distinct.ofModels sameKnown known name
  subst equal
  obtain ⟨memoryGet, run, memoryTyped, defaults⟩ :=
    Model.deserializes distinct known (scalars same known) fun field member part found held =>
      ⟨each field member part found held, nested (each field member part found held)⟩
  refine ⟨.object memoryGet, run, memoryTyped, fun field member absent => ?_⟩
  obtain ⟨part, found, isDefault⟩ := defaults field member (Except.ok.inj absent)
  exact ⟨part, by simp [Value.member, found], isDefault⟩

end Messages

end FlowClients
