import FlowClients.Proofs.CallNames
import FlowClients.Proofs.CompleteOutlines

/-!
Which modules declare a name twice. Every message stands for two types and two functions, whose names
are its own name with a beginning or an ending, and every service for a class. The pool keeps the
names of messages and services apart, but not the names that are made from them.
-/

namespace FlowClients

open Pool

/-- A declaration of a module: what is declared, under which name, and what follows the name. -/
structure Export where
  keyword : String
  name : String
  definition : String
deriving DecidableEq

def Export.text (declared : Export) : String :=
  "\n\nexport " ++ declared.keyword ++ " " ++ declared.name ++ declared.definition

open ClientModule Template in
def ModelDecl.exports (model : ModelDecl) : List Export :=
  let members (template : Template MemberDecl) : String :=
    String.join (model.members.map (template.render .trimming))
  [⟨"type", model.name, " = \x7b" ++ members memberTemplate ++ "\n\x7d"⟩,
    ⟨"type", model.wireType, " = \x7b" ++ members wireMemberTemplate ++ "\n\x7d"⟩,
    ⟨"function", serializerName model.name, "(m: " ++ model.name ++ "): " ++ model.wireType ++
      " \x7b\n  return \x7b" ++ members serializedTemplate ++ "\n  \x7d;\n\x7d"⟩,
    ⟨"function", deserializerName model.name, "(m: " ++ model.wireType ++ "): " ++ model.name ++
      " \x7b\n  return \x7b" ++ members deserializedTemplate ++ "\n  \x7d;\n\x7d"⟩]

def ClassDecl.exported (declaration : ClassDecl) : Export :=
  ⟨"class", declaration.name,
    " \x7b" ++ String.join (declaration.members.map ClassMember.text) ++ "\n\x7d"⟩

/-- Everything that a module declares at its top level. -/
def ClientModule.exports (module : ClientModule) : List Export :=
  module.models.flatMap ModelDecl.exports ++ module.classes.map ClassDecl.exported

def ClientModule.exportNames (module : ClientModule) : List String := module.exports.map (·.name)

/-- The names of the wire type and the converters of a message. -/
def derivedNames (message : String) : List String :=
  [wireTypeName message, serializerName message, deserializerName message]

/-- Nothing is called like what is made from the name of a message, and no two of the names that are
made from messages are the same. -/
structure ExportsApart (messages services : List String) : Prop where
  /-- The wire type and the converters have names of their own. -/
  derived : ∀ message ∈ messages, ∀ name ∈ messages ++ services, name ∉ derivedNames message
  /-- The wire type of `NTo` would be called like the serializer of `N`. -/
  wireTypes : ∀ message ∈ messages, message ++ "To" ∉ messages
  /-- The wire type of the one would be called like the deserializer of the other. -/
  deserializers : ∀ core, "JSONTo" ++ core ∈ messages → core ++ "JSON" ∉ messages
  converters : ∀ message ∈ messages, ∀ other ∈ messages, ¬ SameConverter message other

/-! ### The declarations of a module -/

namespace ClientModule

theorem modelText_exported (model : ModelDecl) :
    modelText model = String.join (model.exports.map Export.text) := by
  rw [modelText_eq, ← String.toList_inj]
  simp [ModelDecl.exports, Export.text, typeText, wireTypeText, serializerText, deserializerText,
    block]

theorem classText_exported (declaration : ClassDecl) :
    classText declaration = declaration.exported.text := by
  rw [classText_eq, ← String.toList_inj]
  simp [ClassDecl.exported, Export.text]

/-- What stands before the declarations of a module: its header and its imports. -/
def preamble (module : ClientModule) : String :=
  "// @flow strict\nimport \x7b sendTwirpRequest \x7d from \"" ++ module.transport ++ "\";" ++
    String.join (module.imports.map importText)

theorem text_eq_exports (module : ClientModule) :
    module.text = module.preamble ++ String.join (module.exports.map Export.text) ++ "\n" := by
  have models : module.models.map modelText =
      module.models.map fun model => String.join (model.exports.map Export.text) :=
    List.map_congr_left fun model _ => modelText_exported model
  have classes : module.classes.map classText =
      (module.classes.map ClassDecl.exported).map Export.text := by
    rw [List.map_map]
    exact List.map_congr_left fun declaration _ => classText_exported declaration
  have front : module.preamble = "// @flow strict\nimport \x7b sendTwirpRequest \x7d from \"" ++
      module.transport ++ "\";" ++ String.join (module.imports.map importText) := rfl
  rw [text_eq, models, classes, front, ← String.toList_inj]
  simp [exports, List.map_flatMap, List.flatMap_assoc, List.flatMap_map]

end ClientModule

theorem Schema.File.exportNames (file : Schema.File) (version : Version) (catalog : Catalog) :
    (file.outline.clientModule version catalog).exportNames =
      (file.messages.map (·.name)).flatMap (fun message => message :: derivedNames message) ++
        file.services.map (·.name) := by
  have classes : (file.outline.clientModule version catalog).classes.map (·.exported.name) =
      file.services.map (·.name) := by
    simp only [Outline.clientModule, Schema.File.outline, List.map_map]
    rfl
  rw [ClientModule.exportNames, ClientModule.exports, List.map_append, List.map_map,
    List.map_flatMap, Schema.clientModule_models, List.flatMap_map, List.flatMap_map]
  exact congrArg _ classes

/-! ### Names made from different messages -/

theorem wireTypeName_eq_serializerName_iff {message other : String} :
    wireTypeName message = serializerName other ↔ message = other ++ "To" := by
  have ending : serializerName other = other ++ "To" ++ "JSON" := by
    simp [serializerName, String.append_assoc]
  rw [ending, wireTypeName, String.append_left_inj]

theorem wireTypeName_eq_deserializerName_iff {message other : String} :
    wireTypeName message = deserializerName other ↔
      ∃ core, message = "JSONTo" ++ core ∧ other = core ++ "JSON" := by
  constructor
  · intro same
    have texts := String.toList_inj.mpr same
    simp only [wireTypeName, deserializerName, String.toList_append] at texts
    have apart : ∀ overlap ∈ "JSONTo".toList.tails, overlap.isPrefixOf "JSON".toList = true →
        overlap = [] := by decide
    rcases List.append_eq_append_iff.mp texts with ⟨overlap, front, back⟩ | ⟨core, front, back⟩
    · have none : overlap = [] := apart overlap ((List.mem_tails _ _).mpr ⟨_, front.symm⟩)
        (List.isPrefixOf_iff_prefix.mpr ⟨_, back.symm⟩)
      subst none
      exact ⟨"", String.toList_inj.mp (by simpa using front.symm),
        String.toList_inj.mp (by simpa using back.symm)⟩
    · exact ⟨String.ofList core, String.toList_inj.mp (by simpa using front),
        String.toList_inj.mp (by simpa using back)⟩
  · rintro ⟨core, rfl, rfl⟩
    simp [wireTypeName, deserializerName, String.append_assoc]

theorem derivedNames_perm (messages : List String) :
    (messages.flatMap derivedNames).Perm (messages.map wireTypeName ++
      (messages.map serializerName ++ messages.map deserializerName)) := by
  have converters := List.map_append_flatMap_perm messages serializerName
    fun message => [deserializerName message]
  rw [← List.map_eq_flatMap] at converters
  have all := List.map_append_flatMap_perm messages wireTypeName
    fun message => [serializerName message, deserializerName message]
  exact all.symm.trans (converters.symm.append_left _)

theorem derivedNames_nodup_iff {messages : List String} (distinct : messages.Nodup) :
    (messages.flatMap derivedNames).Nodup ↔
      (∀ message ∈ messages, ∀ other ∈ messages, wireTypeName message ≠ serializerName other) ∧
      (∀ message ∈ messages, ∀ other ∈ messages, wireTypeName message ≠ deserializerName other) ∧
      ∀ message ∈ messages, ∀ other ∈ messages,
        serializerName message ≠ deserializerName other := by
  have wireTypes : (messages.map wireTypeName).Nodup :=
    distinct.map fun _ _ same => (String.append_left_inj _).mp same
  have serializers : (messages.map serializerName).Nodup :=
    distinct.map fun _ _ same => (String.append_left_inj _).mp same
  have deserializers : (messages.map deserializerName).Nodup :=
    distinct.map fun _ _ same => (String.append_right_inj _).mp same
  rw [(derivedNames_perm messages).nodup_iff, List.nodup_append, List.nodup_append]
  simp only [wireTypes, serializers, deserializers, true_and, List.mem_append, or_imp, forall_and,
    List.forall_mem_map]
  tauto

/-- The names of a module, those that are made from messages behind the others. -/
theorem exportNames_perm (messages services : List String) :
    (messages.flatMap (fun message => message :: derivedNames message) ++ services).Perm
      (messages ++ services ++ messages.flatMap derivedNames) := by
  have own := List.map_append_flatMap_perm messages id derivedNames
  rw [List.map_id] at own
  refine (own.symm.append_right services).trans ?_
  rw [List.append_assoc, List.append_assoc]
  exact List.perm_append_comm.append_left messages

theorem exportsApart_iff {messages services : List String} : ExportsApart messages services ↔
    (∀ message ∈ messages, ∀ name ∈ messages ++ services, name ∉ derivedNames message) ∧
      (∀ message ∈ messages, ∀ other ∈ messages, wireTypeName message ≠ serializerName other) ∧
      (∀ message ∈ messages, ∀ other ∈ messages, wireTypeName message ≠ deserializerName other) ∧
      ∀ message ∈ messages, ∀ other ∈ messages,
        serializerName message ≠ deserializerName other := by
  constructor
  · intro apart
    refine ⟨apart.derived, fun message member other otherMember same => ?_,
      fun message member other otherMember same => ?_,
      fun message member other otherMember same => ?_⟩
    · rw [wireTypeName_eq_serializerName_iff] at same
      exact apart.wireTypes other otherMember (same ▸ member)
    · obtain ⟨core, rfl, rfl⟩ := wireTypeName_eq_deserializerName_iff.mp same
      exact apart.deserializers core member otherMember
    · exact apart.converters message member other otherMember
        (serializerName_eq_deserializerName_iff.mp same)
  · rintro ⟨derived, withSerializers, withDeserializers, converters⟩
    refine ⟨derived, fun message member longer => ?_, fun core first second => ?_,
      fun message member other otherMember same => ?_⟩
    · exact withSerializers _ longer _ member (wireTypeName_eq_serializerName_iff.mpr rfl)
    · exact withDeserializers _ first _ second
        (wireTypeName_eq_deserializerName_iff.mpr ⟨core, rfl, rfl⟩)
    · exact converters _ member _ otherMember (serializerName_eq_deserializerName_iff.mpr same)

instance (messages services : List String) : Decidable (ExportsApart messages services) :=
  decidable_of_iff _ exportsApart_iff.symm

/-- As long as nothing in a file is declared twice, only the names that are made from messages can
clash in its module. -/
theorem exportNames_nodup_iff {messages services : List String}
    (distinct : (messages ++ services).Nodup) :
    (messages.flatMap (fun message => message :: derivedNames message) ++ services).Nodup ↔
      ExportsApart messages services := by
  have elsewhere : (∀ a ∈ messages ++ services, ∀ b ∈ messages.flatMap derivedNames, a ≠ b) ↔
      ∀ message ∈ messages, ∀ name ∈ messages ++ services, name ∉ derivedNames message := by
    constructor
    · intro apart message member name declared derived
      exact apart name declared name (List.mem_flatMap.mpr ⟨message, member, derived⟩) rfl
    · rintro apart name declared _ within rfl
      obtain ⟨message, member, derived⟩ := List.mem_flatMap.mp within
      exact apart message member name declared derived
  rw [(exportNames_perm messages services).nodup_iff, List.nodup_append, elsewhere,
    derivedNames_nodup_iff distinct.of_append_left, exportsApart_iff, and_iff_right distinct,
    and_comm]

theorem Accepted.topLevelNames_nodup {files : List FileDescriptor} {names : Names}
    {schema : Schema} (accepted : Accepted files names schema) {file : FileDescriptor}
    (present : file ∈ files) :
    (file.messages.map (·.root.name) ++ file.services.map (·.name)).Nodup := by
  have within := (topLevelDefinitions_sublist file).trans (sublist_flatMap fileDefinitions present)
  have qualified := accepted.holds.distinct_declared.sublist (within.map (·.fullName))
  refine List.Nodup.of_map (qualify file.package) ?_
  rw [List.map_append, List.map_map, List.map_map] at qualified ⊢
  exact qualified

/-- After its imports, the text of a module that is made from an accepted file consists of its
declarations. No name is declared twice exactly if the names that are made from messages are told
apart from each other and from the names of messages and services. -/
theorem export_names_nodup_iff {files : List FileDescriptor} {schema : Schema}
    (accepted : Schema.ofFiles files = .ok schema) (version : Version) :
    ∃ catalog, Catalog.ofFiles files = .ok catalog ∧
      List.Forall₂ (fun file outline =>
          (outline.clientModule version catalog).text =
            (outline.clientModule version catalog).preamble ++ String.join
              ((outline.clientModule version catalog).exports.map Export.text) ++ "\n" ∧
          (outline.clientModule version catalog).exportNames =
            (file.messages.map (·.root.name)).flatMap
              (fun message => message :: derivedNames message) ++ file.services.map (·.name) ∧
          ((outline.clientModule version catalog).exportNames.Nodup ↔
            ExportsApart (file.messages.map (·.root.name)) (file.services.map (·.name))))
        (files.filter (·.name ≠ timestampFile)) catalog.outlines := by
  obtain ⟨names, known⟩ := Schema.ofFiles_accepted accepted
  refine ⟨schema.extracted, Catalog.ofFiles_eq_ok accepted, ?_⟩
  refine known.outlines_related fun file present resolved run => ?_
  obtain ⟨_, _, messages, services⟩ := Schema.resolveFile_eq_ok run
  have messageNames : resolved.messages.map (·.name) = file.messages.map (·.root.name) :=
    map_eq_of_forall₂ messages fun _ _ run => (Schema.resolveMessage_eq_ok run).1
  have serviceNames : resolved.services.map (·.name) = file.services.map (·.name) :=
    map_eq_of_forall₂ services fun _ _ run => (Schema.Service.mirrors_extract run).name
  have exported := resolved.exportNames version schema.extracted
  rw [messageNames, serviceNames] at exported
  refine ⟨ClientModule.text_eq_exports _, exported, ?_⟩
  rw [exported]
  exact exportNames_nodup_iff (known.topLevelNames_nodup present)

theorem export_names_nodup_iff_counter :
    ∃ catalog outline, Catalog.ofFiles counterFiles = .ok catalog ∧ catalog.outlines = [outline] ∧
      (outline.clientModule .v6 catalog).exportNames =
        ["Data", "DataJSON", "DataToJSON", "JSONToData",
          "Empty", "EmptyJSON", "EmptyToJSON", "JSONToEmpty", "Counter"] ∧
      (outline.clientModule .v6 catalog).exportNames.Nodup := by
  obtain ⟨catalog, run, related⟩ := export_names_nodup_iff counterFiles_accepted .v6
  obtain ⟨outline, _, ⟨_, names, apart⟩, none, single⟩ := List.forall₂_cons_left_iff.mp related
  cases none
  exact ⟨catalog, outline, run, single, names.trans (by decide), apart.mpr (by decide)⟩

/-- One file for each way in which two declarations of a module get the same name. -/
def coinFiles : List FileDescriptor :=
  let declaring (name : String) (messages : List String) (services : List ServiceDescriptor) :=
    FileDescriptor.plain (name ++ ".proto") name [] (messages.map (.plain · [] [])) services
  [declaring "wire" ["Coin", "CoinJSON"] [], declaring "service" ["Coin"] [⟨"JSONToCoin", []⟩],
    declaring "longer" ["Coin", "CoinTo"] [], declaring "around" ["JSONToCoin", "CoinJSON"] [],
    declaring "json" ["JSON"] [], declaring "both" ["JSONToCoin", "CoinToJSON"] []]

/-- Every module declares a name twice. -/
theorem export_names_overlap :
    (∃ schema, Schema.ofFiles coinFiles = .ok schema) ∧
      (∀ name ∈ messageNames coinFiles, isIdentifier name = true) ∧
      (∀ file ∈ coinFiles, isIdentifier file.package = true ∧
        ∀ service ∈ file.services, isIdentifier service.name = true) ∧
      ∃ catalog, Catalog.ofFiles coinFiles = .ok catalog ∧ catalog.outlines.length = 6 ∧
        ∀ outline ∈ catalog.outlines, ¬ (outline.clientModule .v5 catalog).exportNames.Nodup := by
  refine ⟨⟨_, rfl⟩, by decide, by decide, _, rfl, rfl, ?_⟩
  decide

end FlowClients
