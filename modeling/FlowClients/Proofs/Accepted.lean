import FlowClients.Proofs.Naming
import FlowClients.Proofs.Pool.Checked
import FlowClients.Proofs.Sorted
import Mathlib.Data.List.Flatten

/-!
Accepted schema files beside the descriptors that they come from: the same files, messages, services
and methods in the same order, fields in the order of their numbers, and every reference resolved to
a declared message.
-/

namespace FlowClients

open Pool

/-- What is known of the names and the schema of files once the files have been accepted. -/
structure Accepted (files : List FileDescriptor) (names : Names) (schema : Schema) : Prop where
  holds : names.Holds (files.flatMap openedFiles) (files.flatMap fileDefinitions)
  resolved : List.Forall₂ (fun file resolved => Schema.resolveFile names files file = .ok resolved)
    files schema.files

/-- A message declared anywhere in the files, by the full name and the name that it has there. -/
def DeclaresMessage (files : List FileDescriptor) (ref : Schema.MessageRef) : Prop :=
  ∃ definition ∈ files.flatMap fileDefinitions, ∃ descriptor,
    definition.meaning = .message descriptor ∧ ref = ⟨definition.fullName, descriptor.name⟩

/-- The names of a set of files in supported dialects. -/
def Pool.NamesOf (files : List FileDescriptor) (names : Names) : Prop :=
  ∃ dialected, files.mapM (·.withDialect) = .ok dialected ∧ Names.ofFiles dialected = .ok names

/-- Accepted files have names, under which each of them passes its checks and is resolved. -/
theorem Schema.ofFiles_eq_ok {files : List FileDescriptor} {schema : Schema}
    (accepted : Schema.ofFiles files = .ok schema) :
    ∃ names, NamesOf files names ∧ (∀ file ∈ files, checkFile names files file = .ok ()) ∧
      Accepted files names schema := by
  obtain ⟨dialected, looked, run⟩ := bind_eq_ok.mp accepted
  have same := FileDescriptor.files_of_dialected looked
  obtain ⟨names, named, rest⟩ := bind_eq_ok.mp (orFailed_eq_ok.mp run)
  obtain ⟨_, checked, rest⟩ := bind_eq_ok.mp rest
  obtain ⟨resolved, resolving, result⟩ := bind_eq_ok.mp rest
  cases pure_eq_ok.mp result
  rw [same] at checked resolving
  exact ⟨names, ⟨dialected, looked, named⟩, forM_eq_ok.mp checked,
    same ▸ Names.ofFiles_holds named, mapM_eq_ok.mp resolving⟩

theorem Schema.ofFiles_accepted {files : List FileDescriptor} {schema : Schema}
    (accepted : Schema.ofFiles files = .ok schema) : ∃ names, Accepted files names schema := by
  obtain ⟨names, _, _, known⟩ := Schema.ofFiles_eq_ok accepted
  exact ⟨names, known⟩

section Accepted

variable {files : List FileDescriptor} {names : Names} {schema : Schema}

theorem Schema.resolveFile_eq_ok {file : FileDescriptor} {resolved : Schema.File}
    (run : Schema.resolveFile names files file = .ok resolved) :
    resolved.name = file.name ∧ resolved.package = file.package ∧
      List.Forall₂ (fun tree message =>
        Schema.resolveMessage (viewOf names files file) file.package tree = .ok message)
        file.messages resolved.messages ∧
      List.Forall₂ (fun descriptor service =>
        Schema.resolveService (viewOf names files file) file.package descriptor = .ok service)
        file.services resolved.services := by
  obtain ⟨messages, first, rest⟩ := bind_eq_ok.mp run
  obtain ⟨services, second, result⟩ := bind_eq_ok.mp rest
  cases pure_eq_ok.mp result
  exact ⟨rfl, rfl, mapM_eq_ok.mp first, mapM_eq_ok.mp second⟩

theorem Schema.resolveMessage_eq_ok {view : View} {package : String} {tree : MessageTree}
    {message : Schema.Message} (run : Schema.resolveMessage view package tree = .ok message) :
    message.name = tree.root.name ∧
      ∃ fields, message.fields = fields.foldr (insertSorted fun a b => a.number < b.number) [] ∧
        List.Forall₂ (fun descriptor field =>
          Schema.resolveField view (qualify package tree.root.name) descriptor = .ok field)
          tree.root.fields fields := by
  obtain ⟨fields, first, result⟩ := bind_eq_ok.mp run
  cases pure_eq_ok.mp result
  exact ⟨rfl, fields, rfl, mapM_eq_ok.mp first⟩

theorem Schema.resolveField_eq_ok {view : View} {scope : String} {descriptor : FieldDescriptor}
    {field : Schema.Field} (run : Schema.resolveField view scope descriptor = .ok field) :
    field.name = descriptor.name ∧ field.number = descriptor.number ∧
      field.isRepeated = (descriptor.label == .repeated) ∧
      view.fieldKind (qualify scope descriptor.name) [] descriptor = .ok field.kind := by
  obtain ⟨kind, found, result⟩ := bind_eq_ok.mp run
  cases pure_eq_ok.mp result
  exact ⟨rfl, rfl, rfl, found⟩

theorem Accepted.file_names (accepted : Accepted files names schema) :
    schema.files.map (·.name) = files.map (·.name) :=
  map_eq_of_forall₂ accepted.resolved fun _ _ run => (Schema.resolveFile_eq_ok run).1

theorem Accepted.distinct_descriptors (accepted : Accepted files names schema) :
    (files.map (·.name)).Nodup := by
  have opened : (files.map (·.name)).Sublist (files.flatMap openedFiles) := by
    rw [List.map_eq_flatMap]
    exact List.Sublist.flatMap_right files fun file _ =>
      (List.nil_sublist _).cons_cons file.name
  exact accepted.holds.distinctFiles.sublist opened

theorem Accepted.distinct_files (accepted : Accepted files names schema) :
    (schema.files.map (·.name)).Nodup := by
  rw [accepted.file_names]
  exact accepted.distinct_descriptors

theorem Accepted.file_origin (accepted : Accepted files names schema) {resolved : Schema.File}
    (member : resolved ∈ schema.files) :
    ∃ file ∈ files, Schema.resolveFile names files file = .ok resolved := by
  obtain ⟨file, present, run⟩ := exists_of_mem_forall₂ accepted.resolved member
  exact ⟨file, present, run⟩

/-- A top-level message is declared under its name in the package of its file. -/
theorem Accepted.message_declared (accepted : Accepted files names schema) {file : Schema.File}
    {message : Schema.Message} (fileMember : file ∈ schema.files)
    (member : message ∈ file.messages) :
    DeclaresMessage files ⟨qualify file.package message.name, message.name⟩ := by
  obtain ⟨descriptor, present, run⟩ := accepted.file_origin fileMember
  obtain ⟨_, package, messages, _⟩ := Schema.resolveFile_eq_ok run
  obtain ⟨tree, declared, resolved⟩ := exists_of_mem_forall₂ messages member
  obtain ⟨name, _⟩ := Schema.resolveMessage_eq_ok resolved
  refine ⟨messageDefinition descriptor tree,
    List.mem_flatMap.mpr ⟨descriptor, present, messageDefinition_mem declared⟩, tree.root, rfl, ?_⟩
  rw [package, name]
  rfl

theorem Schema.resolveMessageRef_eq_ok {view : View} {scope name : String}
    {ref : Schema.MessageRef} (run : Schema.resolveMessageRef view scope name = .ok ref) :
    ∃ definition descriptor, view.names.find? definition.fullName = some definition ∧
      definition.meaning = .message descriptor ∧ ref = ⟨definition.fullName, descriptor.name⟩ := by
  obtain ⟨target, reference, rest⟩ := bind_eq_ok.mp run
  obtain ⟨found, _⟩ := View.resolve_found reference
  split at rest
  · rename_i descriptor meaning
    exact ⟨target, descriptor, found, meaning, (pure_eq_ok.mp rest).symm⟩
  · exact absurd rest throw_ne_ok

theorem Accepted.ref_declared (accepted : Accepted files names schema) {file : Schema.File}
    {service : Schema.Service} {method : Schema.Method} {ref : Schema.MessageRef}
    (fileMember : file ∈ schema.files) (serviceMember : service ∈ file.services)
    (methodMember : method ∈ service.methods)
    (mentioned : ref = method.request ∨ ref = method.response) : DeclaresMessage files ref := by
  obtain ⟨descriptor, _, run⟩ := accepted.file_origin fileMember
  obtain ⟨_, _, _, services⟩ := Schema.resolveFile_eq_ok run
  obtain ⟨serviceDescriptor, _, serviceRun⟩ := exists_of_mem_forall₂ services serviceMember
  obtain ⟨methods, methodRuns, result⟩ := bind_eq_ok.mp serviceRun
  cases pure_eq_ok.mp result
  obtain ⟨methodDescriptor, _, methodRun⟩ :=
    exists_of_mem_forall₂ (mapM_eq_ok.mp methodRuns) methodMember
  obtain ⟨request, requestRun, rest⟩ := bind_eq_ok.mp methodRun
  obtain ⟨response, responseRun, result⟩ := bind_eq_ok.mp rest
  cases pure_eq_ok.mp result
  obtain ⟨scope, name, refRun⟩ : ∃ scope name,
      Schema.resolveMessageRef (viewOf names files descriptor) scope name = .ok ref := by
    rcases mentioned with rfl | rfl
    · exact ⟨_, _, requestRun⟩
    · exact ⟨_, _, responseRun⟩
  obtain ⟨definition, message, found, meaning, same⟩ := Schema.resolveMessageRef_eq_ok refRun
  exact ⟨definition, accepted.holds.declared_of_find? found (by rw [meaning]; rfl), message,
    meaning, same⟩

theorem Accepted.field_declared (accepted : Accepted files names schema) {file : Schema.File}
    {message : Schema.Message} {field : Schema.Field} {fullName : String}
    (fileMember : file ∈ schema.files) (messageMember : message ∈ file.messages)
    (fieldMember : field ∈ message.fields) (kind : field.kind = .message fullName) :
    ∃ name, DeclaresMessage files ⟨fullName, name⟩ := by
  obtain ⟨descriptor, _, run⟩ := accepted.file_origin fileMember
  obtain ⟨_, _, messages, _⟩ := Schema.resolveFile_eq_ok run
  obtain ⟨tree, _, messageRun⟩ := exists_of_mem_forall₂ messages messageMember
  obtain ⟨_, fields, sorted, fieldRuns⟩ := Schema.resolveMessage_eq_ok messageRun
  rw [sorted] at fieldMember
  obtain ⟨fieldDescriptor, _, fieldRun⟩ :=
    exists_of_mem_forall₂ fieldRuns (mem_of_mem_sorted fieldMember)
  obtain ⟨_, _, _, kindRun⟩ := Schema.resolveField_eq_ok fieldRun
  rw [kind] at kindRun
  obtain ⟨definition, target, found, meaning⟩ := View.fieldKind_message kindRun
  refine ⟨target.name, definition,
    accepted.holds.declared_of_find? found (by rw [meaning]; rfl), target, meaning, ?_⟩
  rw [Names.find?_fullName found]

/-- A full name belongs to one message only. -/
theorem Accepted.ref_unique (accepted : Accepted files names schema) {a b : Schema.MessageRef}
    (first : DeclaresMessage files a) (second : DeclaresMessage files b)
    (same : a.fullName = b.fullName) : a = b := by
  obtain ⟨one, oneMember, oneMessage, oneMeaning, rfl⟩ := first
  obtain ⟨two, twoMember, twoMessage, twoMeaning, rfl⟩ := second
  have equal := accepted.holds.eq_of_fullName oneMember twoMember same
  rw [equal, twoMeaning] at oneMeaning
  cases oneMeaning
  rw [equal]

theorem fieldOrder : StrictOrder fun a b : Schema.Field => decide (a.number < b.number) where
  irrefl a := by simp
  trans first second := by
    simp only [decide_eq_true_eq] at *
    omega
  tied first second third := by
    simp only [decide_eq_true_eq, decide_eq_false_iff_not] at *
    omega

theorem Accepted.distinct_fieldNames (accepted : Accepted files names schema)
    {file : FileDescriptor} {tree : MessageTree} (present : file ∈ files)
    (declared : tree ∈ file.messages) : (tree.root.fields.map (·.name)).Nodup := by
  have within := (fieldDefinitions_sublist declared).trans (sublist_flatMap fileDefinitions present)
  have qualified := accepted.holds.distinct_declared.sublist (within.map (·.fullName))
  rw [List.map_map] at qualified
  refine List.Nodup.of_map (qualify (qualify file.package tree.root.name)) ?_
  rwa [List.map_map]

theorem Accepted.distinct_fields (accepted : Accepted files names schema) {file : Schema.File}
    {message : Schema.Message} (fileMember : file ∈ schema.files)
    (member : message ∈ file.messages) : (message.fields.map (·.name)).Nodup := by
  obtain ⟨descriptor, present, run⟩ := accepted.file_origin fileMember
  obtain ⟨_, _, messages, _⟩ := Schema.resolveFile_eq_ok run
  obtain ⟨tree, declared, messageRun⟩ := exists_of_mem_forall₂ messages member
  obtain ⟨_, fields, sorted, fieldRuns⟩ := Schema.resolveMessage_eq_ok messageRun
  have descriptorNames := accepted.distinct_fieldNames present declared
  have sameNames := map_eq_of_forall₂ fieldRuns fun _ _ run => (Schema.resolveField_eq_ok run).1
  rw [← sameNames] at descriptorNames
  rw [sorted]
  refine (fieldOrder.nodup fields).map_on fun a first b second same => ?_
  exact List.inj_on_of_nodup_map descriptorNames (mem_of_mem_sorted first)
    (mem_of_mem_sorted second) same

end Accepted

/-- The simple name of what is declared is its declared name, unless that has dots itself. -/
theorem DeclaresMessage.simpleName_eq {files : List FileDescriptor} {ref : Schema.MessageRef}
    (declared : DeclaresMessage files ref) (dotless : '.' ∉ ref.name.toList) :
    simpleName ref.fullName = ref.name := by
  obtain ⟨definition, member, descriptor, meaning, rfl⟩ := declared
  obtain ⟨file, _, within⟩ := List.mem_flatMap.mp member
  obtain ⟨scope, qualified⟩ := qualified_of_message within meaning
  rw [qualified]
  exact simpleName_qualify scope dotless

end FlowClients
