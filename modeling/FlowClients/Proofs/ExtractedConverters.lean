import FlowClients.Proofs.ClosedModule
import FlowClients.Proofs.Script.Soundness

/-!
The converters of the models that are extracted from accepted files. The types that the declarations
write down are the types that the values have, every reference leads to a model, and names are
distinct, so that all converters keep to their types.
-/

namespace FlowClients

open Script

namespace Schema

variable {field : Schema.Field}

/-- Whether all fields that hold messages refer to timestamps or to messages that become models. -/
def RefersToModels (schema : Schema) : Prop :=
  ∀ file ∈ schema.clientFiles, ∀ message ∈ file.messages, ∀ field ∈ message.fields, ∀ fullName,
    field.kind = .message fullName → isTimestamp fullName = true ∨
      ∃ target ∈ schema.clientFiles, ∃ declared ∈ target.messages,
        fullName = target.fullName declared

theorem RefersToModels.proper {files : List FileDescriptor} {names : Pool.Names} {schema : Schema}
    (refers : schema.RefersToModels) (accepted : Accepted files names schema)
    (dotless : ∀ name ∈ topLevelNames files, '.' ∉ name.toList)
    (noDates : timestampType ∉ topLevelNames files) {file : File} {message : Message}
    (fileMember : file ∈ schema.clientFiles) (messageMember : message ∈ file.messages)
    (member : field ∈ message.fields) : field.kind.reference? ≠ some timestampType := by
  intro dated
  cases kind : field.kind with
  | message fullName =>
    rw [kind, FieldKind.reference?] at dated
    split at dated
    · cases dated
    · rename_i other
      obtain ⟨target, targetMember, declared, declaredMember, rfl⟩ :=
        (refers file fileMember message messageMember field member fullName kind).resolve_left other
      -- The simple name of the reference is the declared name of a model, and no model is a date.
      have known : declared.name ∈ topLevelNames files := by
        rw [← accepted.names_of_models]
        exact List.mem_map_of_mem (extract_mem targetMember declaredMember)
      rw [File.fullName, simpleName_qualify _ (dotless _ known)] at dated
      exact noDates (Option.some.inj dated ▸ known)
  | _ => rw [kind] at dated; cases dated

theorem distinctNames {files : List FileDescriptor} {names : Pool.Names} {schema : Schema}
    (accepted : Accepted files names schema) (distinct : (topLevelNames files).Nodup)
    (members : ∀ file ∈ schema.clientFiles, ∀ message ∈ file.messages,
      (message.fields.map (memberName ·.name)).Nodup) :
    DistinctNames (modelsOf schema.clientFiles) where
  ofModels := by
    rw [accepted.names_of_models]
    exact distinct
  ofMembers model member := by
    obtain ⟨file, fileMember, message, messageMember, rfl⟩ := mem_modelsOf.mp member
    rw [Message.extract, List.map_map]
    exact members file fileMember message messageMember
  ofWireMembers model member := by
    obtain ⟨file, fileMember, message, messageMember, rfl⟩ := mem_modelsOf.mp member
    rw [Message.extract, List.map_map]
    exact accepted.distinct_fields (mem_clientFiles fileMember) messageMember

end Schema

/-- The converters of extracted models keep to the declared types. Serialization gives every field a
wire member of its type or none; deserialization gives every field a member of its type, and
defaults to those whose wire members are absent. -/
theorem extracted_converters_typed {D : Type} (dates : Dates D) {files : List FileDescriptor}
    {schema : Schema} (accepted : Schema.ofFiles files = .ok schema)
    (refers : schema.RefersToModels) (distinct : (topLevelNames files).Nodup)
    (dotless : ∀ name ∈ topLevelNames files, '.' ∉ name.toList)
    (noDates : timestampType ∉ topLevelNames files)
    (members : ∀ file ∈ schema.clientFiles, ∀ message ∈ file.messages,
      (message.fields.map (memberName ·.name)).Nodup) :
    ∃ catalog models, Catalog.ofFiles files = .ok catalog ∧
      catalog.outlines.flatMap (·.models) = models ∧
      (∀ model ∈ models, ∀ field ∈ model.fields,
        field.memberType = field.memoryType.text ∧ field.wireType = field.onWire.text ∧
          field.deserialized ≠ .member field.wireName) ∧
      (∀ model ∈ models, ∀ value : Value D, HasType validDates models (.model model.name) value →
        ∃ wire, Returns dates (models.map Model.declaration) (.toWire model.name) value wire ∧
          HasType validDates models (.wire model.name) wire) ∧
      ∀ model ∈ models, ∀ wire : Value D, HasType validDates models (.wire model.name) wire →
        ∃ value, Returns dates (models.map Model.declaration) (.fromWire model.name) wire value ∧
          HasType setDates models (.model model.name) value ∧
          ∀ field ∈ model.fields, wire.member field.wireName = .ok .undefined →
            ∃ part, value.member field.name = .ok part ∧ field.memoryType.IsDefault part := by
  obtain ⟨names, known⟩ := Schema.ofFiles_accepted accepted
  have distinctNames := Schema.distinctNames known distinct members
  have scalars : ∀ model ∈ Schema.modelsOf schema.clientFiles, ∀ field ∈ model.fields,
      field.HasKnownScalars := by
    intro model member field fieldMember
    obtain ⟨file, _, message, _, rfl⟩ := Schema.mem_modelsOf.mp member
    obtain ⟨declared, _, rfl⟩ := List.mem_map.mp fieldMember
    exact declared.hasKnownScalars
  refine ⟨schema.extracted, Schema.modelsOf schema.clientFiles, Catalog.ofFiles_eq_ok accepted,
    ?_, ?_, fun _ _ _ typed => serialize_typed distinctNames typed,
    fun _ member _ typed => deserialize_typed distinctNames scalars member typed⟩
  · rw [Schema.extracted, List.flatMap_map]
    rfl
  · intro model member field fieldMember
    have unseen := Field.deserialized_ne_member (scalars model member field fieldMember)
    obtain ⟨file, fileMember, message, messageMember, rfl⟩ := Schema.mem_modelsOf.mp member
    obtain ⟨declared, declaredMember, rfl⟩ := List.mem_map.mp fieldMember
    have proper := refers.proper known dotless noDates fileMember messageMember declaredMember
    exact ⟨Schema.Field.memberType_text proper, Schema.Field.wireType_text proper, unseen⟩

theorem hatFiles_refer : Schema.RefersToModels ⟨[shopFile, hatFile]⟩ := by
  intro file fileMember message messageMember field fieldMember fullName kind
  have toHat : ∀ file ∈ [shopFile, hatFile], ∀ message ∈ file.messages,
      ∀ field ∈ message.fields, field.kind = .message "hats.Hat" := by decide
  have same := toHat file fileMember message messageMember field fieldMember
  rw [kind] at same
  cases same
  exact Or.inr ⟨hatFile, by decide, ⟨"Hat", []⟩, by decide, rfl⟩

def emptyObject : Value Unit := .object fun _ => none

theorem extracted_converters_typed_hat :
    ∃ models value, Returns epochDates (models.map Model.declaration) (.fromWire "Order")
        emptyObject value ∧
      HasType setDates models (.model "Order") value ∧ value.member "topHat" = .ok .null := by
  obtain ⟨catalog, models, run, extracted, _, _, back⟩ := extracted_converters_typed epochDates
    hatFiles_accepted hatFiles_refer (by decide) (by decide) (by decide) (by decide)
  have order : orderMessage.extract "shop.js" ∈ models := by
    cases run
    rw [← extracted]
    decide
  have nothing : HasType validDates models (.wire "Order") emptyObject := by
    change HasType validDates models (.wire (orderMessage.extract "shop.js").name) _
    exact .wire order fun field _ value found => (by cases found)
  obtain ⟨value, returns, typed, defaults⟩ := back _ order _ nothing
  obtain ⟨part, read, isDefault⟩ := defaults _ List.mem_cons_self rfl
  cases isDefault
  exact ⟨models, value, returns, typed, read⟩

end FlowClients
