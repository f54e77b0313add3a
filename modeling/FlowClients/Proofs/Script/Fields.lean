import FlowClients.Proofs.Script.Types

/-!
What the two expressions of a field evaluate to, one case after the other: by whether the field is
repeated, what its values are and whether the member is there.
-/

namespace FlowClients

open Script

theorem Script.wireEntries_declaration (model : Model) :
    wireEntries model.declaration =
      model.fields.map fun field => (field.wireName, field.serialized) := by
  simp [wireEntries, Model.declaration, Field.declaration]

theorem Script.memoryEntries_declaration (model : Model) :
    memoryEntries model.declaration =
      model.fields.map fun field => (field.name, field.deserialized) := by
  simp [memoryEntries, Model.declaration, Field.declaration]

/-- Members can be chosen for distinct keys one by one. -/
theorem Script.exists_members {α D : Type} {items : List α} (key : α → String)
    (R : α → Value D → Prop) (distinct : (items.map key).Nodup)
    (each : ∀ item ∈ items, ∃ value, R item value) :
    ∃ get : String → Option (Value D),
      (∀ item ∈ items, ∃ value, get (key item) = some value ∧ R item value) ∧
        ∀ name, name ∉ items.map key → get name = none := by
  have chosen : ∀ item, ∃ value : Value D, item ∈ items → R item value := by
    intro item
    by_cases member : item ∈ items
    · obtain ⟨value, related⟩ := each item member
      exact ⟨value, fun _ => related⟩
    · exact ⟨.undefined, fun present => absurd present member⟩
  choose value related using chosen
  refine ⟨fun name => (items.find? (key · == name)).map value, ?_, ?_⟩
  · intro item member
    refine ⟨value item, ?_, related item member⟩
    simp only [find?_eq_some_of_nodup distinct member, Option.map_some]
  · intro name absent
    rw [Option.map_eq_none_iff, List.find?_eq_none]
    intro item member same
    exact absent (List.mem_map.mpr ⟨item, member, by simpa using same⟩)

namespace Field

variable {D : Type} {dates : Dates D} {models : List ModelDecl} {field : Field} {m : Value D}

/-! ### The wire member -/

section Serialized

variable {value : Value D} {converter : Converter} {items results : List (Value D)}

theorem serialized_plain (bare : field.serializer? = none)
    (read : m.member field.name = .ok value) :
    Evaluates dates models m field.serialized value := by
  simp only [serialized, bare]
  exact .member read

theorem serialized_list (found : field.serializer? = some converter)
    (repeated : field.isRepeated = true) (read : m.member field.name = .ok (.array items))
    (each : List.Forall₂ (Returns dates models converter) items results) :
    Evaluates dates models m field.serialized (.array results) := by
  simp only [serialized, found, repeated]
  exact .convertEach (.member read) each

theorem serialized_single (found : field.serializer? = some converter)
    (single : field.isRepeated = false) (read : m.member field.name = .ok value)
    (held : value.isPresent = true) {result : Value D}
    (returns : Returns dates models converter value result) :
    Evaluates dates models m field.serialized result := by
  simp only [serialized, found, single]
  exact .present (.member read) held (.convert (.member read) returns)

theorem serialized_absent (found : field.serializer? = some converter)
    (single : field.isRepeated = false) (read : m.member field.name = .ok value)
    (missing : value.isPresent = false) :
    Evaluates dates models m field.serialized .undefined := by
  simp only [serialized, found, single]
  exact .absent (.member read) missing (.constant .undefined)

end Serialized

/-! ### The member in memory -/

section Deserialized

variable {value : Value D} {converter : Converter} {items results : List (Value D)}

theorem deserialized_noList (repeated : field.isRepeated = true)
    (read : m.member field.wireName = .ok value) (missing : value.isPresent = false) :
    Evaluates dates models m field.deserialized (.array []) := by
  simp only [deserialized, repeated, if_true]
  exact .absent (.member read) missing (.constant .emptyList)

theorem deserialized_list (repeated : field.isRepeated = true)
    (found : field.deserializer? = some converter)
    (read : m.member field.wireName = .ok (.array items))
    (each : List.Forall₂ (Returns dates models converter) items results) :
    Evaluates dates models m field.deserialized (.array results) := by
  simp only [deserialized, repeated, if_true, found]
  exact .present (.member read) rfl (.convertEach (.member read) each)

theorem deserialized_plainList (repeated : field.isRepeated = true)
    (bare : field.deserializer? = none) (read : m.member field.wireName = .ok value)
    (held : value.isPresent = true) :
    Evaluates dates models m field.deserialized value := by
  simp only [deserialized, repeated, if_true, bare]
  exact .present (.member read) held (.member read)

theorem deserialized_date (single : field.isRepeated = false) (held : field.holdsDates = true)
    (read : m.member field.wireName = .ok value) :
    Evaluates dates models m field.deserialized
      ((dates.construct value).elim .invalidDate .date) := by
  simp only [deserialized, single, held, Bool.false_eq_true, if_false, if_true]
  exact .convert (.member read) (.textToDate value)

theorem deserialized_single (single : field.isRepeated = false)
    (found : field.deserializer? = some converter) (read : m.member field.wireName = .ok value)
    (held : value.isPresent = true) {result : Value D}
    (returns : Returns dates models converter value result) :
    Evaluates dates models m field.deserialized result := by
  cases dated : field.holdsDates with
  | true =>
    simp only [deserializer?, dated, if_true, Option.some.injEq] at found
    simp only [deserialized, single, dated, Bool.false_eq_true, if_false, if_true]
    exact .convert (.member read) (found ▸ returns)
  | false =>
    simp only [deserialized, single, dated, Bool.false_eq_true, if_false, found]
    exact .present (.member read) held (.convert (.member read) returns)

theorem deserialized_null (single : field.isRepeated = false)
    (noDates : field.holdsDates = false) (found : field.deserializer? = some converter)
    (read : m.member field.wireName = .ok value) (missing : value.isPresent = false) :
    Evaluates dates models m field.deserialized .null := by
  simp only [deserialized, single, noDates, Bool.false_eq_true, if_false, found]
  exact .absent (.member read) missing (.constant .null)

/-- A scalar that is there stays as it is, whether or not something could stand for it. -/
theorem deserialized_plain (single : field.isRepeated = false)
    (noDates : field.holdsDates = false) (bare : field.deserializer? = none)
    (read : m.member field.wireName = .ok value) (held : value.isPresent = true) :
    Evaluates dates models m field.deserialized value := by
  simp only [deserialized, single, noDates, Bool.false_eq_true, if_false, bare]
  split
  · exact .present (.member read) held (.member read)
  · exact .member read

theorem deserialized_default (single : field.isRepeated = false)
    (noDates : field.holdsDates = false) (bare : field.deserializer? = none)
    {default : Constant} (known : absentScalar? field.type = some default)
    (read : m.member field.wireName = .ok value) (missing : value.isPresent = false) :
    Evaluates dates models m field.deserialized (constantValue default) := by
  simp only [deserialized, single, noDates, Bool.false_eq_true, if_false, bare, known]
  exact .absent (.member read) missing (.constant default)

end Deserialized

end Field

/-! ### Messages -/

/-- Models and members are told apart by their names, in memory and on the wire. -/
structure DistinctNames (models : List Model) : Prop where
  ofModels : (models.map (·.name)).Nodup
  ofMembers : ∀ model ∈ models, (model.fields.map (·.name)).Nodup
  ofWireMembers : ∀ model ∈ models, (model.fields.map (·.wireName)).Nodup

section Messages

variable {D : Type} {dates : Dates D} {models : List Model} {model : Model} {m : Value D}
  {get : String → Option (Value D)}

theorem DistinctNames.ofDeclarations (distinct : DistinctNames models) :
    ((models.map Model.declaration).map (·.name)).Nodup := by
  have same : (models.map Model.declaration).map (·.name) = models.map (·.name) := by
    simp [Model.declaration]
  rw [same]
  exact distinct.ofModels

theorem Script.Returns.serialized (distinct : DistinctNames models) (known : model ∈ models)
    (members : ∀ field ∈ model.fields, ∃ wire, get field.wireName = some wire ∧
      Evaluates dates (models.map Model.declaration) m field.serialized wire)
    (only : ∀ key, key ∉ model.fields.map (·.wireName) → get key = none) :
    Returns dates (models.map Model.declaration) (.toWire model.name) m (.object get) := by
  refine Returns.toWire distinct.ofDeclarations (List.mem_map_of_mem known) ?_ ?_
  · rw [wireEntries_declaration]
    intro entry member
    obtain ⟨field, fieldMember, rfl⟩ := List.mem_map.mp member
    exact members field fieldMember
  · intro key absent
    rw [wireEntries_declaration, List.map_map] at absent
    exact only key absent

theorem Script.Returns.deserialized (distinct : DistinctNames models) (known : model ∈ models)
    (members : ∀ field ∈ model.fields, ∃ value, get field.name = some value ∧
      Evaluates dates (models.map Model.declaration) m field.deserialized value)
    (only : ∀ key, key ∉ model.fields.map (·.name) → get key = none) :
    Returns dates (models.map Model.declaration) (.fromWire model.name) m (.object get) := by
  refine Returns.fromWire distinct.ofDeclarations (List.mem_map_of_mem known) ?_ ?_
  · rw [memoryEntries_declaration]
    intro entry member
    obtain ⟨field, fieldMember, rfl⟩ := List.mem_map.mp member
    exact members field fieldMember
  · intro key absent
    rw [memoryEntries_declaration, List.map_map] at absent
    exact only key absent

end Messages

end FlowClients
