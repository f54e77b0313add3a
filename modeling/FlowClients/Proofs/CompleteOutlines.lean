import FlowClients.Proofs.ReferenceResolution

/-!
Outlines beside the schema files that they come from. Nothing that a file declares at top level is
lost and nothing is added: models stand for the messages, their fields for the fields, and the
methods of the services for the methods that do not stream.
-/

namespace FlowClients

open Pool

/-- The type name of a field that stands in `scope` leads to a message. -/
def Pool.View.LeadsToMessage (view : View) (scope : String) (descriptor : FieldDescriptor) : Prop :=
  descriptor.typeName ≠ "" ∧ ∃ target message,
    view.resolve .fieldType (qualify scope descriptor.name) descriptor.typeName = .ok target ∧
      target.meaning = .message message

structure Field.Mirrors (field : Field) (view : View) (scope : String)
    (descriptor : FieldDescriptor) : Prop where
  wireName : field.wireName = descriptor.name
  name : field.name = memberName descriptor.name
  isRepeated : field.isRepeated = true ↔ descriptor.label = .repeated
  isMessage : field.isMessage = true ↔
    view.LeadsToMessage scope descriptor ∧ descriptor.type ≠ .group

/-- The fields of a model are those of the message in some order, none of them twice. -/
structure Model.Mirrors (model : Model) (view : View) (file : FileDescriptor)
    (tree : MessageTree) : Prop where
  path : model.file = moduleFile file.name
  name : model.name = tree.root.name
  declared : model.builtin = false
  fields : ∃ fields, fields.Perm model.fields ∧
    List.Forall₂ (fun descriptor field =>
      field.Mirrors view (qualify file.package tree.root.name) descriptor) tree.root.fields fields

structure Method.Mirrors (method : Method) (descriptor : MethodDescriptor) : Prop where
  rpc : method.rpc = descriptor.name
  name : method.name = decapitalize descriptor.name

def MethodDescriptor.isUnary (descriptor : MethodDescriptor) : Bool :=
  !descriptor.clientStreaming && !descriptor.serverStreaming

structure Service.Mirrors (service : Service) (file : FileDescriptor)
    (descriptor : ServiceDescriptor) : Prop where
  name : service.name = descriptor.name
  package : service.package = file.package
  methods : List.Forall₂ (fun descriptor method => method.Mirrors descriptor)
    (descriptor.methods.filter (·.isUnary)) service.methods

/-- The names of the unary methods. -/
def ServiceDescriptor.rpcs (service : ServiceDescriptor) : List String :=
  (service.methods.filter (·.isUnary)).map (·.name)

/-- An outline has a model for every message at the top level of a file and a service for every
service, in the order of their declaration. -/
structure Outline.Mirrors (outline : Outline) (view : View) (file : FileDescriptor) : Prop where
  path : outline.file = moduleFile file.name
  models : List.Forall₂ (fun tree model => model.Mirrors view file tree)
    file.messages outline.models
  services : List.Forall₂ (fun descriptor service => service.Mirrors file descriptor)
    file.services outline.services

/-! ### Fields -/

theorem Pool.View.isMessage_of_fieldKind {view : View} {scope : String} {path : Path}
    {descriptor : FieldDescriptor} {kind : FieldKind}
    (run : view.fieldKind (qualify scope descriptor.name) path descriptor = .ok kind) :
    kind.isMessage = true ↔ view.LeadsToMessage scope descriptor ∧ descriptor.type ≠ .group := by
  unfold View.fieldKind at run
  split at run
  · rename_i unnamed
    split at run <;> cases run
    exact ⟨nofun, fun leads => absurd unnamed leads.1.1⟩
  · rename_i named
    obtain ⟨target, reference, found⟩ := bind_eq_ok.mp run
    have accepted := (View.resolve_found reference).2
    have leads : view.LeadsToMessage scope descriptor ↔
        ∃ message, target.meaning = .message message := by
      constructor
      · rintro ⟨_, other, message, again, meaning⟩
        cases reference.symm.trans again
        exact ⟨message, meaning⟩
      · rintro ⟨message, meaning⟩
        exact ⟨named, target, message, reference, meaning⟩
    rw [leads]
    rcases Wanted.accepts_cases accepted with ⟨message, meaning⟩ | ⟨_, enum, meaning⟩
    · rw [meaning] at found
      have same := pure_eq_ok.mp found
      by_cases group : descriptor.type = .group
      · rw [if_pos group] at same
        simp [← same, FieldKind.isMessage, group]
      · rw [if_neg group] at same
        simp [← same, FieldKind.isMessage, group, meaning]
    · rw [meaning] at found
      simp [← pure_eq_ok.mp found, FieldKind.isMessage, meaning]

theorem Schema.Field.mirrors_extract {view : View} {scope : String} {descriptor : FieldDescriptor}
    {field : Schema.Field} (run : Schema.resolveField view scope descriptor = .ok field) :
    field.extract.Mirrors view scope descriptor := by
  obtain ⟨name, _, label, kind⟩ := Schema.resolveField_eq_ok run
  refine ⟨name, congrArg memberName name, ?_, View.isMessage_of_fieldKind kind⟩
  change field.isRepeated = true ↔ _
  rw [label, beq_iff_eq]

/-! ### Models and services -/

/-- A message is resolved with all its fields, though in another order. -/
theorem Schema.fields_of_resolveMessage {names : Names} {files : List FileDescriptor}
    {file : FileDescriptor} {tree : MessageTree} {message : Schema.Message}
    (checked : checkFile names files file = .ok ()) (declared : tree ∈ file.messages)
    (run : Schema.resolveMessage (viewOf names files file) file.package tree = .ok message) :
    ∃ fields, message.fields.Perm fields ∧
      List.Forall₂ (fun descriptor field => Schema.resolveField (viewOf names files file)
        (qualify file.package tree.root.name) descriptor = .ok field) tree.root.fields fields := by
  obtain ⟨_, fields, sorted, runs⟩ := Schema.resolveMessage_eq_ok run
  -- The fields are sorted by their numbers. Equal numbers would make one field replace another.
  have numbers : fields.map (·.number) = tree.root.fields.map (·.number) :=
    map_eq_of_forall₂ runs fun _ _ run => (Schema.resolveField_eq_ok run).2.1
  have distinct : (fields.map (·.number)).Nodup := numbers ▸ distinct_numbers checked declared
  refine ⟨fields, ?_, runs⟩
  rw [sorted]
  refine perm_sorted ((List.pairwise_map.mp distinct).imp fun apart => ?_)
  simpa only [decide_eq_true_eq] using Int.lt_or_gt_of_ne apart

theorem Schema.Message.mirrors_extract {names : Names} {files : List FileDescriptor}
    {file : FileDescriptor} {tree : MessageTree} {message : Schema.Message}
    (checked : checkFile names files file = .ok ()) (declared : tree ∈ file.messages)
    (run : Schema.resolveMessage (viewOf names files file) file.package tree = .ok message) :
    (message.extract (moduleFile file.name)).Mirrors (viewOf names files file) file tree := by
  obtain ⟨name, _⟩ := Schema.resolveMessage_eq_ok run
  obtain ⟨fields, reordered, runs⟩ := Schema.fields_of_resolveMessage checked declared run
  refine ⟨rfl, name, rfl, fields.map Schema.Field.extract, (reordered.symm.map _), ?_⟩
  exact List.forall₂_map_right_iff.mpr (runs.imp fun _ _ => Schema.Field.mirrors_extract)

theorem Schema.resolveMethod_eq_ok {view : View} {scope : String} {descriptor : MethodDescriptor}
    {method : Schema.Method} (run : Schema.resolveMethod view scope descriptor = .ok method) :
    method.name = descriptor.name ∧ (!method.isStreaming) = descriptor.isUnary := by
  obtain ⟨_, _, rest⟩ := bind_eq_ok.mp run
  obtain ⟨_, _, result⟩ := bind_eq_ok.mp rest
  cases pure_eq_ok.mp result
  exact ⟨rfl, Bool.not_or ..⟩

theorem Schema.Service.mirrors_extract {view : View} {file : FileDescriptor}
    {descriptor : ServiceDescriptor} {service : Schema.Service}
    (run : Schema.resolveService view file.package descriptor = .ok service) :
    (service.extract file.package).Mirrors file descriptor := by
  obtain ⟨methods, runs, result⟩ := bind_eq_ok.mp run
  cases pure_eq_ok.mp result
  refine ⟨rfl, rfl, List.forall₂_map_right_iff.mpr ?_⟩
  have each := (mapM_eq_ok.mp runs).imp fun _ _ => Schema.resolveMethod_eq_ok
  exact (filter_forall₂ each fun _ _ known => known.2).imp fun _ _ known =>
    ⟨known.1, congrArg decapitalize known.1⟩

theorem Service.Mirrors.rpcs {service : Service} {file : FileDescriptor}
    {descriptor : ServiceDescriptor} (mirrors : service.Mirrors file descriptor) :
    service.methods.map (·.rpc) = descriptor.rpcs :=
  map_eq_of_forall₂ mirrors.methods fun _ _ method => method.rpc

theorem Service.Mirrors.callNames {service : Service} {file : FileDescriptor}
    {descriptor : ServiceDescriptor} (mirrors : service.Mirrors file descriptor) :
    service.methods.map (·.name) = descriptor.rpcs.map decapitalize := by
  rw [ServiceDescriptor.rpcs, List.map_map]
  exact map_eq_of_forall₂ mirrors.methods fun _ _ method => method.name

theorem Schema.File.mirrors_outline {names : Names} {files : List FileDescriptor}
    {file : FileDescriptor} {resolved : Schema.File}
    (checked : checkFile names files file = .ok ())
    (run : Schema.resolveFile names files file = .ok resolved) :
    resolved.outline.Mirrors (viewOf names files file) file := by
  obtain ⟨name, package, messages, services⟩ := Schema.resolveFile_eq_ok run
  refine ⟨congrArg moduleFile name, List.forall₂_map_right_iff.mpr ?_,
    List.forall₂_map_right_iff.mpr ?_⟩
  · rw [name]
    exact (forall₂_and_mem messages).imp fun _ _ ⟨declared, run⟩ =>
      Schema.Message.mirrors_extract checked declared run
  · rw [package]
    exact services.imp fun _ _ => Schema.Service.mirrors_extract

theorem Accepted.services_mirrored {files : List FileDescriptor} {names : Names} {schema : Schema}
    (accepted : Accepted files names schema) :
    List.Forall₂ (fun file outline => List.Forall₂ (fun descriptor service =>
        service.Mirrors file descriptor) file.services outline.services)
      (files.filter (·.name ≠ timestampFile)) schema.extracted.outlines := by
  refine accepted.outlines_related fun file _ resolved run => List.forall₂_map_right_iff.mpr ?_
  obtain ⟨_, package, _, services⟩ := Schema.resolveFile_eq_ok run
  rw [package]
  exact services.imp fun _ _ => Schema.Service.mirrors_extract

/-- A message with fields out of order, a nested message and a group, and a streaming method. -/
def partyFile : FileDescriptor :=
  .plain "party.proto" "party" [timestampFile]
    [.plain "Party"
      [.referring "start_time" 3 ".google.protobuf.Timestamp",
        { FieldDescriptor.referring "guest_list" 2 "Guest" with label := .repeated },
        { FieldDescriptor.referring "cake" 1 "Cake" with type := .group }]
      [.plain "Guest" [] [], .plain "Cake" [] []],
      .plain "Empty" [] []]
    [⟨"Parties",
      [⟨"Watch", "Empty", "Party", false, true⟩, ⟨"Throw", "Party", "Empty", false, false⟩]⟩]

def partyFiles : List FileDescriptor :=
  [partyFile, .plain timestampFile "google.protobuf" [] [.plain "Timestamp" [] []] []]

def partySchema : Schema :=
  ⟨[⟨"party.proto", "party",
      [⟨"Party", [⟨"cake", 1, false, .group "party.Party.Cake"⟩,
        ⟨"guest_list", 2, true, .message "party.Party.Guest"⟩,
        ⟨"start_time", 3, false, .message "google.protobuf.Timestamp"⟩]⟩, ⟨"Empty", []⟩],
      [⟨"Parties",
        [⟨"Watch", ⟨"party.Empty", "Empty"⟩, ⟨"party.Party", "Party"⟩, true⟩,
          ⟨"Throw", ⟨"party.Party", "Party"⟩, ⟨"party.Empty", "Empty"⟩, false⟩]⟩]⟩,
    ⟨timestampFile, "google.protobuf", [⟨"Timestamp", []⟩], []⟩]⟩

theorem partyFiles_accepted : Schema.ofFiles partyFiles = .ok partySchema := by rfl

end FlowClients
