import FlowClients.Proofs.FlowTypes
import FlowClients.Proofs.Script.Evaluation

/-!
The values that have a type. A message in memory has all its members and no others; of an object on
the wire any members may be absent.
-/

namespace FlowClients

namespace Script

/-- What counts as a date. -/
structure DateRules where
  /-- Invalid dates do. -/
  invalid : Bool
  /-- Single dates may be null. -/
  unset : Bool

variable {D : Type}

inductive HasType (rules : DateRules) (models : List Model) : FlowType → Value D → Prop
  | text (value : String) : HasType rules models .string (.text value)
  | number (value : Float) : HasType rules models .number (.number value)
  | boolean (value : Bool) : HasType rules models .boolean (.boolean value)
  | date (value : D) : HasType rules models .date (.date value)
  | invalidDate (allowed : rules.invalid = true) : HasType rules models .date .invalidDate
  | list {type : FlowType} {items : List (Value D)}
      (each : ∀ item ∈ items, HasType rules models type item) :
      HasType rules models (.list type) (.array items)
  | null {type : FlowType} (allowed : type = .date → rules.unset = true) :
      HasType rules models (.nullable type) .null
  | held {type : FlowType} {value : Value D} (typed : HasType rules models type value) :
      HasType rules models (.nullable type) value
  | memory {model : Model} {get : String → Option (Value D)} (known : model ∈ models)
      (keys : ∀ key, (get key).isSome = true ↔ key ∈ model.fields.map (·.name))
      (each : ∀ field ∈ model.fields, ∀ value, get field.name = some value →
        HasType rules models field.memoryType value) :
      HasType rules models (.model model.name) (.object get)
  | wire {model : Model} {get : String → Option (Value D)} (known : model ∈ models)
      (each : ∀ field ∈ model.fields, ∀ value, get field.wireName = some value →
        value ≠ .undefined → HasType rules models field.onWire value) :
      HasType rules models (.wire model.name) (.object get)

end Script

open Script

/-- What holds of the messages in memory, and of those on the wire, that a value consists of. -/
def FlowType.Objects {D : Type} (inMemory onWire : String → Value D → Prop) : FlowType → Value D → Prop
  | .model name, value => inMemory name value
  | .wire name, value => onWire name value
  | .list type, value =>
    ∀ items, value = .array items → ∀ item ∈ items, type.Objects inMemory onWire item
  | .nullable type, value => value ≠ .null → type.Objects inMemory onWire value
  | .string, _ | .number, _ | .boolean, _ | .date, _ => True

namespace Script.HasType

variable {D : Type} {rules : DateRules} {models : List Model} {type : FlowType} {value : Value D}

/-- What follows for a message if it holds of the messages in its members holds of all messages. -/
theorem objects {inMemory onWire : String → Value D → Prop}
    (memory : ∀ model ∈ models, ∀ get,
      (∀ key, (get key).isSome = true ↔ key ∈ model.fields.map (·.name)) →
      (∀ field ∈ model.fields, ∀ value, get field.name = some value →
        HasType rules models field.memoryType value ∧
          field.memoryType.Objects inMemory onWire value) → inMemory model.name (.object get))
    (wire : ∀ model ∈ models, ∀ get,
      (∀ field ∈ model.fields, ∀ value, get field.wireName = some value → value ≠ .undefined →
        HasType rules models field.onWire value ∧ field.onWire.Objects inMemory onWire value) →
        onWire model.name (.object get))
    (typed : HasType rules models type value) : type.Objects inMemory onWire value := by
  -- On the typing: lists and nullable values pass on what holds of the values in them.
  induction typed with
  | text | number | boolean | date | invalidDate => trivial
  | @list type items _ ih =>
    intro _ same item member
    cases same
    exact ih item member
  | null => exact fun notNull => absurd rfl notNull
  | held _ ih => exact fun _ => ih
  | @memory model get known keys each ih =>
    exact memory model known get keys fun field member value found =>
      ⟨each field member value found, ih field member value found⟩
  | @wire model get known each ih =>
    exact wire model known get fun field member value found held =>
      ⟨each field member value found held, ih field member value found held⟩

theorem array (typed : HasType rules models (.list type) value) :
    ∃ items, value = .array items ∧ ∀ item ∈ items, HasType rules models type item := by
  cases typed with
  | list each => exact ⟨_, rfl, each⟩

theorem null_or (typed : HasType rules models (.nullable type) value) :
    value = .null ∧ (type = .date → rules.unset = true) ∨ HasType rules models type value := by
  cases typed with
  | null allowed => exact Or.inl ⟨rfl, allowed⟩
  | held typed => exact Or.inr typed

theorem wire_object {name : String} (typed : HasType rules models (.wire name) value) :
    ∃ model ∈ models, model.name = name ∧ ∃ get, value = .object get ∧
      ∀ field ∈ model.fields, ∀ part, get field.wireName = some part → part ≠ .undefined →
        HasType rules models field.onWire part := by
  cases typed with
  | wire known each => exact ⟨_, known, rfl, _, rfl, each⟩

/-- Only values of nullable types are null, and none is undefined. -/
theorem isPresent (typed : HasType rules models type value)
    (proper : ∀ inner, type ≠ .nullable inner) : value.isPresent = true := by
  cases typed with
  | null | held => exact absurd rfl (proper _)
  | _ => rfl

theorem ne_null (typed : HasType rules models type value)
    (proper : ∀ inner, type ≠ .nullable inner) : value ≠ .null := by
  rintro rfl
  have held := typed.isPresent proper
  cases held

end Script.HasType

/-- A member in memory is a list of single values, null or a single value. -/
theorem Field.memory_cases {D : Type} {rules : DateRules} {models : List Model} {field : Field}
    {value : Value D} {inMemory onWire : String → Value D → Prop}
    (typed : HasType rules models field.memoryType value)
    (objects : field.memoryType.Objects inMemory onWire value) :
    (∃ items, field.isRepeated = true ∧ value = .array items ∧ ∀ item ∈ items,
      HasType rules models field.valueType item ∧
        field.valueType.Objects inMemory onWire item) ∨
    (field.isRepeated = false ∧ field.isMessage = true ∧ value = .null ∧
      (field.holdsDates = true → rules.unset = true)) ∨
    field.isRepeated = false ∧ HasType rules models field.valueType value ∧
      field.valueType.Objects inMemory onWire value := by
  cases repeated : field.isRepeated with
  | true =>
    simp only [memoryType, repeated, if_true] at typed objects
    obtain ⟨items, rfl, each⟩ := typed.array
    exact Or.inl ⟨items, rfl, rfl, fun item member =>
      ⟨each item member, objects items rfl item member⟩⟩
  | false =>
    refine Or.inr ?_
    cases message : field.isMessage with
    | false =>
      simp only [memoryType, repeated, message, Bool.false_eq_true, if_false] at typed objects
      exact Or.inr ⟨rfl, typed, objects⟩
    | true =>
      simp only [memoryType, repeated, message, Bool.false_eq_true, if_false, if_true]
        at typed objects
      rcases typed.null_or with ⟨rfl, allowed⟩ | held
      · exact Or.inl ⟨rfl, rfl, rfl, fun dated => allowed (field.holdsDates_iff.mp dated)⟩
      · exact Or.inr ⟨rfl, held, objects (held.ne_null field.valueType_ne_nullable)⟩

end FlowClients
