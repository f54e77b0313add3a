import FlowClients.Proofs.Mentions
import FlowClients.Proofs.ReferenceResolution

/-!
Which names a generated module mentions without having them in scope: only those that come with a
message that is no model, because it is nested in another message or its file makes no module. All
other names are declared in the module, imported by it or builtin.
-/

namespace FlowClients

/-- A letter or underscore, then letters, digits and underscores. -/
def isIdentifier (name : String) : Bool :=
  match name.toList with
  | [] => false
  | c :: cs => (c.isAlpha || c == '_') && cs.all fun c => c.isAlphanum || c == '_'

/-- The names of all messages of the files, nested ones too. -/
def messageNames (files : List FileDescriptor) : List String :=
  (files.flatMap Pool.fileDefinitions).filterMap fun definition =>
    match definition.meaning with
    | .message descriptor => some descriptor.name
    | _ => none

/-- The modules to be made from the files. -/
def moduleFiles (files : List FileDescriptor) : List String :=
  (files.filter (·.name ≠ timestampFile)).map (moduleFile ·.name)

/-- The simple names of the messages that the module of a file refers to. -/
def Schema.File.references (file : Schema.File) : List String :=
  file.messages.flatMap (fun message => message.fields.filterMap (·.kind.reference?)) ++
    file.services.flatMap fun service =>
      (service.methods.filter (!·.isStreaming)).flatMap fun method =>
        [method.request.name, method.response.name]

theorem isIdentifier_apart {name : String} (identifier : isIdentifier name = true) :
    ∀ c ∈ name.toList, c.isAlphanum = true ∨ c = '_' := by
  unfold isIdentifier at identifier
  split at identifier
  · cases identifier
  · rename_i first rest text
    simp only [Bool.and_eq_true, Bool.or_eq_true, beq_iff_eq, List.all_eq_true] at identifier
    rw [text]
    intro c member
    rcases List.mem_cons.mp member with rfl | later
    · rcases identifier.1 with letter | underscore
      · exact Or.inl (by simp [Char.isAlphanum, letter])
      · exact Or.inr underscore
    · exact identifier.2 c later

theorem dotless_of_identifier {name : String} (identifier : isIdentifier name = true) :
    '.' ∉ name.toList := by
  intro member
  rcases isIdentifier_apart identifier '.' member with letter | underscore
  · exact absurd letter (by decide)
  · exact absurd underscore (by decide)

theorem isTypeName_of_identifier {name : String} (identifier : isIdentifier name = true) :
    isTypeName name = true := by
  simp only [isTypeName, List.all_eq_true, Bool.not_eq_true']
  intro c member
  by_contra joins
  simp only [Bool.not_eq_false, joinsTypes, Bool.or_eq_true, beq_iff_eq] at joins
  rcases isIdentifier_apart identifier c member with letter | rfl
  · rcases joins with (rfl | rfl) | rfl <;> exact absurd letter (by decide)
  · rcases joins with (same | same) | same <;> exact absurd same (by decide)

theorem DeclaresMessage.mem_messageNames {files : List FileDescriptor} {ref : Schema.MessageRef}
    (declared : DeclaresMessage files ref) : ref.name ∈ messageNames files := by
  obtain ⟨definition, member, descriptor, meaning, rfl⟩ := declared
  exact List.mem_filterMap.mpr ⟨definition, member, by rw [meaning]⟩

theorem Accepted.moduleFiles_eq {files : List FileDescriptor} {names : Pool.Names}
    {schema : Schema} (accepted : Accepted files names schema) :
    schema.clientFiles.map (moduleFile ·.name) = moduleFiles files := by
  have kept : ∀ {α : Type} (items : List α) (name : α → String),
      (items.filter (name · ≠ timestampFile)).map (moduleFile <| name ·) =
        ((items.map name).filter (· ≠ timestampFile)).map moduleFile := by
    intro α items name
    rw [List.filter_map, List.map_map]
    rfl
  rw [Schema.clientFiles, moduleFiles, kept schema.files (·.name), kept files (·.name),
    accepted.file_names]

theorem Accepted.reference_isTypeName {files : List FileDescriptor} {names : Pool.Names}
    {schema : Schema} (accepted : Accepted files names schema)
    (identifiers : ∀ name ∈ messageNames files, isIdentifier name = true) {file : Schema.File}
    {message : Schema.Message} {field : Schema.Field} {type : String}
    (fileMember : file ∈ schema.files) (messageMember : message ∈ file.messages)
    (fieldMember : field ∈ message.fields) (refers : field.kind.reference? = some type) :
    isTypeName type = true := by
  cases kind : field.kind with
  | message fullName =>
    rw [kind, FieldKind.reference?] at refers
    split at refers
    · cases refers
    · obtain ⟨name, declared⟩ := accepted.field_declared fileMember messageMember fieldMember kind
      have identifier := identifiers name declared.mem_messageNames
      rw [← Option.some.inj refers, declared.simpleName_eq (dotless_of_identifier identifier)]
      exact isTypeName_of_identifier identifier
  | _ => rw [kind] at refers; cases refers

/-! ### Mentions and their declarations -/

namespace Schema

variable {schema : Schema} {file : File} {catalog : Catalog} {version : Version}
  {mention : Mention}

theorem clientModule_models (file : File) (version : Version) (catalog : Catalog) :
    (file.outline.clientModule version catalog).models =
      file.messages.map fun message => (message.extract (moduleFile file.name)).declaration := by
  simp [Outline.clientModule, File.outline, List.filter_map, Message.extract, Function.comp_def]

theorem Method.mentions_declaration {method : Method}
    (member : mention ∈ (method.extract.declaration catalog).mentions) :
    mention ∈ builtinNames ∨ mention ∈ modelNames method.request.name ∨
      mention ∈ modelNames method.response.name := by
  simp only [CallDecl.mentions, List.mem_append, List.mem_cons] at member
  rcases member with argument | rfl | result
  · split at argument
    · refine Or.inr (Or.inl ?_)
      revert argument
      simp only [modelNames, FlowClients.Method.declaration, Method.extract, List.mem_cons]
      tauto
    · cases argument
  · exact Or.inl (by decide)
  · split at result
    · refine Or.inr (Or.inr ?_)
      revert result
      simp only [modelNames, FlowClients.Method.declaration, Method.extract, List.mem_cons]
      tauto
    · rw [List.mem_singleton.mp result]
      exact Or.inl (by decide)

/-- All that a module mentions is builtin or comes with a model that it declares or refers to. -/
theorem File.mentions_cases
    (simple : ∀ message ∈ file.messages, ∀ field ∈ message.fields, ∀ type,
      field.kind.reference? = some type → isTypeName type = true)
    (member : mention ∈ (file.outline.clientModule version catalog).mentions) :
    mention ∈ builtinNames ∨ (∃ message ∈ file.messages, mention ∈ modelNames message.name) ∨
      ∃ type ∈ file.references, mention ∈ modelNames type := by
  rw [ClientModule.mentions, clientModule_models] at member
  rcases List.mem_append.mp member with inModels | inClasses
  · obtain ⟨_, modelMember, within⟩ := List.mem_flatMap.mp inModels
    obtain ⟨message, messageMember, rfl⟩ := List.mem_map.mp modelMember
    rcases List.mem_append.mp within with signature | inMembers
    · refine Or.inr (Or.inl ⟨message, messageMember, ?_⟩)
      exact List.mem_append_left [_, _] signature
    · obtain ⟨_, memberMember, within⟩ := List.mem_flatMap.mp inMembers
      simp only [Model.declaration, Message.extract, List.map_map] at memberMember
      obtain ⟨field, fieldMember, rfl⟩ := List.mem_map.mp memberMember
      rcases Field.mentions_declaration (simple message messageMember field fieldMember) within with
        builtin | ⟨type, refers, named⟩
      · exact Or.inl builtin
      · refine Or.inr (Or.inr ⟨type, List.mem_append_left _ ?_, named⟩)
        exact List.mem_flatMap.mpr
          ⟨message, messageMember, List.mem_filterMap.mpr ⟨field, fieldMember, refers⟩⟩
  · obtain ⟨_, classMember, within⟩ := List.mem_flatMap.mp inClasses
    simp only [Outline.clientModule, File.outline, List.map_map] at classMember
    obtain ⟨service, serviceMember, rfl⟩ := List.mem_map.mp classMember
    rcases List.mem_cons.mp within with rfl | inCalls
    · exact Or.inl (by decide)
    · obtain ⟨_, callMember, within⟩ := List.mem_flatMap.mp inCalls
      simp only [Function.comp_apply, FlowClients.Service.declaration, Service.extract,
        List.map_map] at callMember
      obtain ⟨method, methodMember, rfl⟩ := List.mem_map.mp callMember
      have referred : ∀ type ∈ [method.request.name, method.response.name],
          type ∈ file.references := fun type named =>
        List.mem_append_right _ (List.mem_flatMap.mpr
          ⟨service, serviceMember, List.mem_flatMap.mpr ⟨method, methodMember, named⟩⟩)
      rcases Method.mentions_declaration within with builtin | request | response
      · exact Or.inl builtin
      · exact Or.inr (Or.inr ⟨_, referred _ List.mem_cons_self, request⟩)
      · exact Or.inr (Or.inr
          ⟨_, referred _ (List.mem_cons_of_mem _ List.mem_cons_self), response⟩)

theorem File.references_mentioned {type : String} (referred : type ∈ file.references) :
    type ∈ file.outline.mentionedTypes := by
  rcases List.mem_append.mp referred with inMessages | inServices
  · obtain ⟨message, messageMember, within⟩ := List.mem_flatMap.mp inMessages
    obtain ⟨field, fieldMember, refers⟩ := List.mem_filterMap.mp within
    have mentioned := field_mentioned messageMember fieldMember
    rwa [Field.singleType_extract, FieldKind.types_of_reference refers] at mentioned
  · obtain ⟨service, serviceMember, within⟩ := List.mem_flatMap.mp inServices
    obtain ⟨method, methodMember, named⟩ := List.mem_flatMap.mp within
    obtain ⟨declared, unary⟩ := List.mem_filter.mp methodMember
    refine method_mentioned serviceMember declared (by simpa using unary) ?_
    simpa using named

theorem File.declares {message : Message} (member : message ∈ file.messages)
    (within : mention ∈ modelNames message.name) :
    mention ∈ (file.outline.clientModule version catalog).scope := by
  refine List.mem_append_left _ (List.mem_append_left _ (List.mem_flatMap.mpr
    ⟨(message.extract (moduleFile file.name)).declaration, ?_, within⟩))
  rw [clientModule_models]
  exact List.mem_map_of_mem member

/-- The names that come with a model are declared by its own module and imported by every other
module that refers to it. A second model of the same name takes its place for this purpose. -/
theorem File.modelNames_in_scope {type : String}
    (distinct : (schema.clientFiles.map (moduleFile ·.name)).Nodup)
    (fileMember : file ∈ schema.clientFiles) (mentioned : type ∈ file.outline.mentionedTypes)
    (extracted : type ∈ (modelsOf schema.clientFiles).map (·.name))
    (within : mention ∈ modelNames type) :
    mention ∈ (file.outline.clientModule version schema.extracted).scope := by
  obtain ⟨model, member, rfl⟩ := List.mem_map.mp extracted
  obtain ⟨last, lastMember, found⟩ := extracted_find?_isSome member
  have name := Catalog.find?_name found
  obtain ⟨owner, ownerMember, message, messageMember, rfl⟩ := mem_modelsOf.mp lastMember
  by_cases own : moduleFile owner.name = moduleFile file.name
  · rw [List.inj_on_of_nodup_map distinct ownerMember fileMember own] at messageMember
    rw [← name] at within
    exact File.declares messageMember within
  · have imports := Outline.imports_of_foreign mentioned found rfl own
    have imported := (List.mem_filter.mp (imports ▸ List.mem_singleton_self _)).1
    exact List.mem_append_left _
      (List.mem_append_right _ (List.mem_flatMap.mpr ⟨_, imported, within⟩))

end Schema

/-- In every module that is generated from accepted files, whatever it mentions is in scope, except
for the names that come with a message it refers to whose simple name no model has. -/
theorem modules_closed {files : List FileDescriptor} {schema : Schema}
    (accepted : Schema.ofFiles files = .ok schema)
    (identifiers : ∀ name ∈ messageNames files, isIdentifier name = true)
    (distinct : (moduleFiles files).Nodup) (version : Version) :
    ∃ catalog, Catalog.ofFiles files = .ok catalog ∧
      catalog.outlines = schema.clientFiles.map Schema.File.outline ∧
      ∀ file ∈ schema.clientFiles,
        ∀ mention ∈ (file.outline.clientModule version catalog).mentions,
          mention ∈ (file.outline.clientModule version catalog).scope ∨
            ∃ type ∈ file.references, type ∉ topLevelNames files ∧ mention ∈ modelNames type := by
  obtain ⟨names, known⟩ := Schema.ofFiles_accepted accepted
  rw [← known.moduleFiles_eq] at distinct
  refine ⟨schema.extracted, Catalog.ofFiles_eq_ok accepted, rfl, ?_⟩
  intro file fileMember mention member
  have simple : ∀ message ∈ file.messages, ∀ field ∈ message.fields, ∀ type,
      field.kind.reference? = some type → isTypeName type = true :=
    fun _ messageMember _ fieldMember _ =>
      known.reference_isTypeName identifiers (Schema.mem_clientFiles fileMember) messageMember
        fieldMember
  rcases Schema.File.mentions_cases simple member with
    builtin | ⟨message, messageMember, within⟩ | ⟨type, referred, within⟩
  · exact Or.inl (List.mem_append_right _ builtin)
  · exact Or.inl (Schema.File.declares messageMember within)
  -- The look-up by simple name succeeds for a referred type exactly if some model has the name.
  · by_cases extracted : type ∈ topLevelNames files
    · rw [← known.names_of_models] at extracted
      exact Or.inl (Schema.File.modelNames_in_scope distinct fileMember
        (Schema.File.references_mentioned referred) extracted within)
    · exact Or.inr ⟨type, referred, extracted, within⟩

theorem modules_closed_hat :
    ∃ catalog, Catalog.ofFiles hatFiles = .ok catalog ∧
      ∀ mention ∈ (shopFile.outline.clientModule .v5 catalog).mentions,
        mention ∈ (shopFile.outline.clientModule .v5 catalog).scope := by
  obtain ⟨catalog, run, _, closed⟩ :=
    modules_closed hatFiles_accepted (by decide) (by decide) .v5
  refine ⟨catalog, run, fun mention member => ?_⟩
  rcases closed shopFile (by decide) mention member with inScope | ⟨type, referred, missing, _⟩
  · exact inScope
  · have known : ∀ type ∈ shopFile.references, type ∈ topLevelNames hatFiles := by decide
    exact absurd (known type referred) missing

def nestedFiles : List FileDescriptor :=
  [.plain "outer.proto" "" []
    [.plain "Outer" [.referring "inner" 1 ".Outer.Inner"] [.plain "Inner" [] []]] []]

/-- The module has neither a type nor converters for the nested message that it mentions. -/
theorem nested_message_not_in_scope :
    (∀ name ∈ messageNames nestedFiles, isIdentifier name = true) ∧ (moduleFiles nestedFiles).Nodup ∧
      ∃ catalog, Catalog.ofFiles nestedFiles = .ok catalog ∧ ∃ outline ∈ catalog.outlines,
        ∀ mention ∈ modelNames "Inner",
          mention ∈ (outline.clientModule .v5 catalog).mentions ∧
            mention ∉ (outline.clientModule .v5 catalog).scope := by
  refine ⟨by decide, by decide, _, rfl, _, List.mem_cons_self, ?_⟩
  decide

end FlowClients
