import FlowClients.Proofs.Exports
import FlowClients.Proofs.OutputNames
import FlowClients.Proofs.Pool.Reordering
import Mathlib.Data.List.Perm.Basic

/-!
What the order of schema files decides: the order of their modules and, where several messages share
a name, which of them the name stands for. As long as no two top-level messages do, the text of
every module is the same in every order.
-/

namespace FlowClients

open Pool

/-! ### Schemas -/

namespace Schema

section Alike

variable {view other : View}

theorem resolveField_of_alike (alike : view.Alike other) {scope : String} {field : FieldDescriptor}
    {resolved : Field} (run : resolveField view scope field = .ok resolved) :
    resolveField other scope field = .ok resolved := by
  obtain ⟨kind, found, result⟩ := bind_eq_ok.mp run
  exact bind_eq_ok.mpr ⟨kind, alike.fieldKind found, result⟩

theorem resolveMessage_of_alike (alike : view.Alike other) {package : String} {tree : MessageTree}
    {message : Message} (run : resolveMessage view package tree = .ok message) :
    resolveMessage other package tree = .ok message := by
  obtain ⟨fields, resolved, result⟩ := bind_eq_ok.mp run
  have again := (mapM_eq_ok.mp resolved).imp fun _ _ => resolveField_of_alike alike
  exact bind_eq_ok.mpr ⟨fields, mapM_eq_ok.mpr again, result⟩

theorem resolveMessageRef_of_alike (alike : view.Alike other) {scope name : String}
    {ref : MessageRef} (run : resolveMessageRef view scope name = .ok ref) :
    resolveMessageRef other scope name = .ok ref := by
  obtain ⟨target, reference, result⟩ := bind_eq_ok.mp run
  exact bind_eq_ok.mpr ⟨target, alike.resolve reference, result⟩

theorem resolveMethod_of_alike (alike : view.Alike other) {scope : String}
    {descriptor : MethodDescriptor} {method : Method}
    (run : resolveMethod view scope descriptor = .ok method) :
    resolveMethod other scope descriptor = .ok method := by
  obtain ⟨request, requested, rest⟩ := bind_eq_ok.mp run
  obtain ⟨response, responded, result⟩ := bind_eq_ok.mp rest
  exact bind_eq_ok.mpr ⟨request, resolveMessageRef_of_alike alike requested,
    bind_eq_ok.mpr ⟨response, resolveMessageRef_of_alike alike responded, result⟩⟩

theorem resolveService_of_alike (alike : view.Alike other) {package : String}
    {descriptor : ServiceDescriptor} {service : Service}
    (run : resolveService view package descriptor = .ok service) :
    resolveService other package descriptor = .ok service := by
  obtain ⟨methods, resolved, result⟩ := bind_eq_ok.mp run
  have again := (mapM_eq_ok.mp resolved).imp fun _ _ => resolveMethod_of_alike alike
  exact bind_eq_ok.mpr ⟨methods, mapM_eq_ok.mpr again, result⟩

theorem resolveFile_of_alike {names otherNames : Names} {files others : List FileDescriptor}
    {file : FileDescriptor} {resolved : File}
    (alike : (viewOf names files file).Alike (viewOf otherNames others file))
    (run : resolveFile names files file = .ok resolved) :
    resolveFile otherNames others file = .ok resolved := by
  obtain ⟨messages, first, rest⟩ := bind_eq_ok.mp run
  obtain ⟨services, second, result⟩ := bind_eq_ok.mp rest
  have messagesAgain := (mapM_eq_ok.mp first).imp fun _ _ => resolveMessage_of_alike alike
  have servicesAgain := (mapM_eq_ok.mp second).imp fun _ _ => resolveService_of_alike alike
  exact bind_eq_ok.mpr ⟨messages, mapM_eq_ok.mpr messagesAgain,
    bind_eq_ok.mpr ⟨services, mapM_eq_ok.mpr servicesAgain, result⟩⟩

end Alike

/-- Every file resolves to the same in every order of the files. -/
theorem files_of_perm {files others : List FileDescriptor} {schema other : Schema}
    (accepted : Schema.ofFiles files = .ok schema)
    (otherAccepted : Schema.ofFiles others = .ok other) (perm : files.Perm others) :
    schema.files.Perm other.files := by
  obtain ⟨names, named, _, known⟩ := Schema.ofFiles_eq_ok accepted
  obtain ⟨otherNames, otherNamed, _, otherKnown⟩ := Schema.ofFiles_eq_ok otherAccepted
  -- Both schemas are what one resolver makes of the files, that of the second order.
  have resolved : schema.files.map Except.ok = files.map (resolveFile otherNames others) :=
    map_eq_of_forall₂ known.resolved fun file _ run =>
      (resolveFile_of_alike (named.alike otherNamed perm known.distinct_descriptors file) run).symm
  have otherResolved : other.files.map Except.ok = others.map (resolveFile otherNames others) :=
    map_eq_of_forall₂ otherKnown.resolved fun _ _ run => run.symm
  refine (List.map_perm_map_iff (f := Except.ok (ε := Rejection)) ?_).mp ?_
  · exact fun _ _ => Except.ok.inj
  · rw [resolved, otherResolved]
    exact perm.map _

end Schema

/-! ### Modules -/

/-- A name that no two models share stands for the same in every order of the models. -/
theorem Catalog.Agrees.find?_of_perm {catalog other : Catalog} (agrees : catalog.Agrees)
    (otherAgrees : other.Agrees) (perm : catalog.models.Perm other.models)
    (distinct : (catalog.models.map (·.name)).Nodup) (name : String) :
    catalog.find? name = other.find? name := by
  have reversed : catalog.models.reverse.Perm other.models.reverse :=
    (List.reverse_perm _).trans (perm.trans (List.reverse_perm _).symm)
  have unique : (catalog.models.reverse.map (·.name)).Nodup := by
    rwa [List.map_reverse, List.nodup_reverse]
  rw [Catalog.find?, Catalog.find?, agrees, otherAgrees, List.find?_append, List.find?_append,
    FlowClients.find?_of_perm reversed unique]

section Congr

variable {catalog other : Catalog}

theorem Method.declaration_congr {method : Method}
    (request : catalog.find? method.request = other.find? method.request)
    (response : catalog.find? method.response = other.find? method.response) :
    method.declaration catalog = method.declaration other := by
  have shape : method.shape catalog = method.shape other := by
    simp only [Method.shape, Catalog.isEmptyModel, request, response]
  rw [Method.declaration, Method.declaration, shape]

namespace Outline

variable {outline : Outline}

theorem imports_congr
    (same : ∀ type ∈ outline.mentionedTypes, catalog.find? type = other.find? type) :
    outline.imports catalog = outline.imports other := by
  have foreign : outline.mentionedTypes.filterMap (outline.foreign? catalog) =
      outline.mentionedTypes.filterMap (outline.foreign? other) :=
    List.filterMap_congr fun type mentioned => by rw [foreign?, foreign?, same type mentioned]
  rw [imports, imports, importTargets, importTargets, foreign]

theorem declaration_congr {service : Service} (listed : service ∈ outline.services)
    (version : Version)
    (same : ∀ type ∈ outline.mentionedTypes, catalog.find? type = other.find? type) :
    service.declaration version catalog = service.declaration version other := by
  have calls : service.methods.map (·.declaration catalog) =
      service.methods.map (·.declaration other) := by
    refine List.map_congr_left fun method member => ?_
    have mentioned : ∀ type ∈ [method.request, method.response], type ∈ outline.mentionedTypes :=
      fun type among => List.mem_append_right _ (List.mem_flatMap.mpr
        ⟨service, listed, List.mem_flatMap.mpr ⟨method, member, among⟩⟩)
    exact Method.declaration_congr (same _ (mentioned _ List.mem_cons_self))
      (same _ (mentioned _ (List.mem_cons_of_mem _ List.mem_cons_self)))
  rw [Service.declaration, Service.declaration, calls]

/-- All that a module takes from the catalog is what the types that it mentions stand for. -/
theorem output_congr (version : Version)
    (same : ∀ type ∈ outline.mentionedTypes, catalog.find? type = other.find? type) :
    outline.output version catalog = outline.output version other := by
  have classes : outline.services.map (·.declaration version catalog) =
      outline.services.map (·.declaration version other) :=
    List.map_congr_left fun _ listed => declaration_congr listed version same
  rw [output, output, clientModule, clientModule, imports_congr same, classes]

end Outline

end Congr

namespace Schema

/-- The text of the module that is made from the file of a name. -/
def moduleText (schema : Schema) (version : Version) (name : String) : String :=
  ((schema.file? name).map fun file => (file.outline.output version schema.extracted).text).getD ""

theorem output_eq {schema : Schema} (distinct : (schema.files.map (·.name)).Nodup)
    (version : Version) : schema.extracted.output version =
      ((schema.files.map (·.name)).filter (· ≠ timestampFile)).map (fun name =>
        ⟨moduleFile name, schema.moduleText version name⟩) ++ [transportModule] := by
  rw [Catalog.output, extracted, List.map_map, List.filter_map, List.map_map]
  congr 1
  refine List.map_congr_left fun file member => ?_
  have found : schema.file? file.name = some file :=
    find?_eq_some_of_nodup distinct (List.mem_filter.mp member).1
  simp only [Function.comp_apply, moduleText, found, Option.map_some, Option.getD_some]
  rfl

theorem moduleText_of_perm {schema other : Schema} (perm : schema.files.Perm other.files)
    (distinctFiles : (schema.files.map (·.name)).Nodup)
    (distinct : ((modelsOf schema.clientFiles).map (·.name)).Nodup) (version : Version) :
    schema.moduleText version = other.moduleText version := by
  have models : schema.extracted.models.Perm other.extracted.models := by
    rw [models_extracted, models_extracted]
    exact (perm.filter _).flatMap_right _
  have same := schema.extracted_agrees.find?_of_perm other.extracted_agrees models
    (by rwa [models_extracted])
  funext name
  rw [moduleText, moduleText, file?, file?, find?_of_perm perm distinctFiles]
  simp only [Outline.output_congr version fun type _ => same type]

end Schema

/-- In whatever order the same files are accepted, they give the same modules, each in the place of
its file, and the transport module after them, as long as no two top-level messages that become
models share a name. -/
theorem output_of_perm {files others : List FileDescriptor} {schema otherSchema : Schema}
    (accepted : Schema.ofFiles files = .ok schema)
    (otherAccepted : Schema.ofFiles others = .ok otherSchema) (perm : files.Perm others)
    (distinct : (topLevelNames files).Nodup) (version : Version) :
    ∃ catalog otherCatalog, Catalog.ofFiles files = .ok catalog ∧
      Catalog.ofFiles others = .ok otherCatalog ∧
      (catalog.output version).Perm (otherCatalog.output version) ∧
      ∃ text : String → String,
        catalog.output version =
          (clientNames files).map (fun name => ⟨moduleFile name, text name⟩) ++ [transportModule] ∧
        otherCatalog.output version =
          (clientNames others).map (fun name => ⟨moduleFile name, text name⟩) ++
            [transportModule] := by
  obtain ⟨names, known⟩ := Schema.ofFiles_accepted accepted
  obtain ⟨otherNames, otherKnown⟩ := Schema.ofFiles_accepted otherAccepted
  have texts : schema.moduleText version = otherSchema.moduleText version :=
    Schema.moduleText_of_perm (Schema.files_of_perm accepted otherAccepted perm)
      known.distinct_files (by rwa [known.names_of_models]) version
  have output := Schema.output_eq known.distinct_files version
  have otherOutput := Schema.output_eq otherKnown.distinct_files version
  rw [known.file_names] at output
  rw [otherKnown.file_names, ← texts] at otherOutput
  refine ⟨_, _, Catalog.ofFiles_eq_ok accepted, Catalog.ofFiles_eq_ok otherAccepted, ?_,
    schema.moduleText version, output, otherOutput⟩
  rw [output, otherOutput]
  exact (((perm.map _).filter _).map _).append_right _

theorem output_of_reversed_calendar :
    ∃ text : String → String,
      calendarSchema.extracted.output .v5 = [⟨"event.js", text "event.proto"⟩,
        ⟨"calendar/date.js", text "calendar/date.proto"⟩, transportModule] ∧
      (Schema.mk calendarSchema.files.reverse).extracted.output .v5 =
        [⟨"calendar/date.js", text "calendar/date.proto"⟩, ⟨"event.js", text "event.proto"⟩,
          transportModule] := by
  have reversed : Schema.ofFiles calendarFiles.reverse = .ok ⟨calendarSchema.files.reverse⟩ := rfl
  obtain ⟨_, _, run, otherRun, _, text, output, otherOutput⟩ := output_of_perm
    calendarFiles_accepted reversed (List.reverse_perm calendarFiles).symm (by decide) .v5
  cases run.symm.trans (Catalog.ofFiles_eq_ok calendarFiles_accepted)
  cases otherRun.symm.trans (Catalog.ofFiles_eq_ok reversed)
  exact ⟨text, output, otherOutput⟩

end FlowClients
