import FlowClients.Proofs.FlowTypes
import FlowClients.Proofs.Imports

/-!
Where references lead. A field takes the name of its type from the full name that it refers to, a
method takes the name of the declaration, and both are looked up by that simple name among the
models of all files. As long as no two top-level messages share a name the look-up finds the message
that was meant, and the module imports it exactly if another module declares it.
-/

namespace FlowClients

/-- The names of the top-level messages that become models. -/
def topLevelNames (files : List FileDescriptor) : List String :=
  (files.filter (·.name ≠ timestampFile)).flatMap fun file => file.messages.map (·.root.name)

/-- A type that a module mentions stands for a model, which has one import, from the module that
declares it, or none if it is this module. -/
structure Outline.Resolves (outline : Outline) (catalog : Catalog) (type : String)
    (model : Model) : Prop where
  found : catalog.find? type = some model
  imported : (outline.imports catalog).filter (·.model == model.name) =
    if model.file = outline.file then []
    else [⟨Specifier.between outline.file model.file, model.name⟩]

/-- What is known to have no fields is what stands for a message without fields. -/
theorem Outline.Resolves.hasFields {outline : Outline} {catalog : Catalog} {type file : String}
    {message : Schema.Message} (resolves : outline.Resolves catalog type (message.extract file)) :
    (!catalog.isEmptyModel type) = true ↔ message.fields ≠ [] := by
  simp [Catalog.isEmptyModel, resolves.found, Schema.Message.extract]

theorem Accepted.names_of_models {files : List FileDescriptor} {names : Pool.Names}
    {schema : Schema} (accepted : Accepted files names schema) :
    (Schema.modelsOf schema.clientFiles).map (·.name) = topLevelNames files := by
  have general : ∀ {descriptors : List FileDescriptor} {resolved : List Schema.File},
      List.Forall₂ (fun file resolved => Schema.resolveFile names files file = .ok resolved)
        descriptors resolved →
      (Schema.modelsOf (resolved.filter (·.name ≠ timestampFile))).map (·.name) =
        topLevelNames descriptors := by
    intro descriptors resolved related
    induction related with
    | nil => rfl
    | @cons file result _ _ run _ ih =>
      obtain ⟨name, _, messages, _⟩ := Schema.resolveFile_eq_ok run
      have own : result.messages.map (·.name) = file.messages.map (·.root.name) :=
        map_eq_of_forall₂ messages fun _ _ run => (Schema.resolveMessage_eq_ok run).1
      by_cases skipped : file.name = timestampFile
      · simpa [topLevelNames, List.filter_cons, name, skipped] using ih
      · have models : result.outline.models.map (·.name) = file.messages.map (·.root.name) := by
          rw [← own, Schema.File.outline, List.map_map]
          rfl
        simpa [topLevelNames, List.filter_cons, name, skipped, Schema.modelsOf, models] using ih
  exact general accepted.resolved

namespace Schema

def File.fullName (file : File) (message : Message) : String := qualify file.package message.name

theorem mem_clientFiles {schema : Schema} {file : File} (member : file ∈ schema.clientFiles) :
    file ∈ schema.files :=
  (List.mem_filter.mp member).1

theorem extract_mem {schema : Schema} {file : File} {message : Message}
    (fileMember : file ∈ schema.clientFiles) (member : message ∈ file.messages) :
    message.extract (moduleFile file.name) ∈ modelsOf schema.clientFiles :=
  mem_modelsOf.mpr ⟨file, fileMember, message, member, rfl⟩

theorem field_mentioned {file : File} {holder : Message} {field : Field}
    (holderMember : holder ∈ file.messages) (member : field ∈ holder.fields) :
    field.extract.singleType ∈ file.outline.mentionedTypes := by
  refine List.mem_append_left _ (List.mem_flatMap.mpr ⟨holder.extract (moduleFile file.name),
    List.mem_map_of_mem holderMember, ?_⟩)
  exact List.mem_map_of_mem (List.mem_map_of_mem member)

theorem method_mentioned {file : File} {service : Service} {method : Method} {type : String}
    (serviceMember : service ∈ file.services) (member : method ∈ service.methods)
    (unary : method.isStreaming = false)
    (used : type = method.request.name ∨ type = method.response.name) :
    type ∈ file.outline.mentionedTypes := by
  have extracted : method.extract ∈ (service.extract file.package).methods :=
    List.mem_map_of_mem (List.mem_filter.mpr ⟨member, by rw [unary]; rfl⟩)
  refine List.mem_append_right _ (List.mem_flatMap.mpr ⟨service.extract file.package,
    List.mem_map_of_mem serviceMember, List.mem_flatMap.mpr ⟨method.extract, extracted, ?_⟩⟩)
  rcases used with rfl | rfl
  · exact List.mem_cons_self
  · exact List.mem_cons_of_mem _ List.mem_cons_self

theorem File.resolves {schema : Schema} {source target : File} {message : Message}
    {type : String} (distinct : ((modelsOf schema.clientFiles).map (·.name)).Nodup)
    (targetMember : target ∈ schema.clientFiles) (member : message ∈ target.messages)
    (mentioned : type ∈ source.outline.mentionedTypes) (named : type = message.name) :
    source.outline.Resolves schema.extracted type (message.extract (moduleFile target.name)) := by
  have found : schema.extracted.find? type = some (message.extract (moduleFile target.name)) := by
    rw [named]
    exact extracted_find?_eq_some distinct (extract_mem targetMember member)
  refine ⟨found, ?_⟩
  change (source.outline.imports schema.extracted).filter (·.model == message.name) = _
  rw [← named]
  split
  · rename_i own
    exact Outline.imports_of_own found own
  · rename_i elsewhere
    rw [Outline.imports_of_foreign mentioned found rfl elsewhere, named]
    rfl

end Schema

/-- A message with nothing but fields and nested messages. -/
def MessageTree.plain (name : String) (fields : List FieldDescriptor)
    (nested : List MessageTree) : MessageTree :=
  ⟨⟨name, fields, [], [], [], [], []⟩, nested⟩

/-- An optional field whose type has a name. -/
def FieldDescriptor.referring (name : String) (number : Int) (typeName : String) :
    FieldDescriptor :=
  ⟨name, number, .optional, .message, typeName, none, none, none, none⟩

/-- A file in the older dialect with messages and services only. -/
def FileDescriptor.plain (name package : String) (dependencies : List String)
    (messages : List MessageTree) (services : List ServiceDescriptor) : FileDescriptor :=
  ⟨name, package, dependencies, [], [], messages, [], services, [], none⟩

/-- A field and a method that refer to messages of another file, which comes later. -/
def hatFiles : List FileDescriptor :=
  [.plain "shop.proto" "shop" ["hats/hat.proto"]
    [.plain "Order" [.referring "top_hat" 1 ".hats.Hat"] []]
    [⟨"Shop", [⟨"Buy", "Order", ".hats.Hat", false, false⟩]⟩],
   .plain "hats/hat.proto" "hats" [] [.plain "Hat" [] []] []]

def buyMethod : Schema.Method := ⟨"Buy", ⟨"shop.Order", "Order"⟩, ⟨"hats.Hat", "Hat"⟩, false⟩

def orderMessage : Schema.Message := ⟨"Order", [⟨"top_hat", 1, false, .message "hats.Hat"⟩]⟩

def shopFile : Schema.File :=
  ⟨"shop.proto", "shop", [orderMessage], [⟨"Shop", [buyMethod]⟩]⟩

def hatFile : Schema.File := ⟨"hats/hat.proto", "hats", [⟨"Hat", []⟩], []⟩

theorem hatFiles_accepted : Schema.ofFiles hatFiles = .ok ⟨[shopFile, hatFile]⟩ := rfl

/-- The full name of this message is that of timestamps after a dot, and a different name. -/
def dottedFiles : List FileDescriptor :=
  [.plain "a.proto" ".google.protobuf" []
    [.plain "Timestamp" [] [],
      .plain "Holder" [.referring "at" 1 "..google.protobuf.Timestamp"] []] []]

def dottedFile : Schema.File :=
  ⟨"a.proto", ".google.protobuf",
    [⟨"Timestamp", []⟩, ⟨"Holder", [⟨"at", 1, false, .message ".google.protobuf.Timestamp"⟩]⟩], []⟩

end FlowClients
