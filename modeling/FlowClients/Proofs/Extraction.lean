import FlowClients.Proofs.Accepted
import FlowClients.Proofs.Catalog.History

/-!
The catalog of an accepted schema, written down at once: an outline for each file, in order, and the
models of all files under their names, the latest first. Extraction gives this catalog and never
fails.
-/

namespace FlowClients

namespace Schema

/-- What a file declares, as its module has it. -/
def File.outline (file : File) : Outline where
  file := moduleFile file.name
  models := file.messages.map (·.extract (moduleFile file.name))
  services := file.services.map (·.extract file.package)

/-- The files that modules are made from: all but the one that declares timestamps. -/
def clientFiles (schema : Schema) : List File := schema.files.filter (·.name ≠ timestampFile)

/-- The models of a list of files, in the order of their declaration. -/
def modelsOf (files : List File) : List Model := files.flatMap (·.outline.models)

def extracted (schema : Schema) : Catalog where
  outlines := schema.clientFiles.map File.outline
  known := (modelsOf schema.clientFiles).reverse ++ [Model.timestamp]

theorem models_extracted (schema : Schema) :
    schema.extracted.models = modelsOf schema.clientFiles :=
  List.flatMap_map ..

theorem extracted_agrees (schema : Schema) : schema.extracted.Agrees := by
  rw [Catalog.Agrees, models_extracted]
  rfl

end Schema

/-- Models are added to the module opened last and become known, the latest first. -/
theorem Schema.addModels (messages : List Message) (path : String) (front : List Outline)
    (current : Outline) (known : List Model) :
    messages.foldlM (fun (catalog : Catalog) message => catalog.addModel (message.extract path))
      ⟨front ++ [current], known⟩ =
      .ok ⟨front ++ [{ current with models := current.models ++ messages.map (·.extract path) }],
        (messages.map (·.extract path)).reverse ++ known⟩ := by
  induction messages generalizing current known with
  | nil => simp [pure, Except.pure]
  | cons message rest ih =>
    rw [List.foldlM_cons, Catalog.addModel, Catalog.updateLast_concat]
    refine (ih _ _).trans ?_
    simp only [List.map_cons, List.reverse_cons, List.append_assoc, List.singleton_append]

theorem Schema.addServices (services : List Service) (package : String) (front : List Outline)
    (current : Outline) (known : List Model) :
    services.foldlM (fun (catalog : Catalog) service =>
        catalog.addService (service.extract package)) ⟨front ++ [current], known⟩ =
      .ok ⟨front ++ [{ current with
        services := current.services ++ services.map (·.extract package) }], known⟩ := by
  induction services generalizing current with
  | nil => simp [pure, Except.pure]
  | cons service rest ih =>
    rw [List.foldlM_cons, Catalog.addService, Catalog.updateLast_concat]
    refine (ih _).trans ?_
    simp only [List.map_cons, List.append_assoc, List.singleton_append]

theorem Schema.File.addTo_eq_ok (file : File) (catalog : Catalog)
    (generated : file.name ≠ timestampFile) :
    file.addTo catalog = .ok
      ⟨catalog.outlines ++ [file.outline], file.outline.models.reverse ++ catalog.known⟩ := by
  have models := Schema.addModels file.messages (moduleFile file.name) catalog.outlines
    ⟨moduleFile file.name, [], []⟩ catalog.known
  have services := Schema.addServices file.services file.package catalog.outlines
    ⟨moduleFile file.name, file.outline.models, []⟩ (file.outline.models.reverse ++ catalog.known)
  simp only [Schema.File.addTo, generated, if_false, Catalog.openModule]
  exact (bind_eq_ok.mpr ⟨_, models, services⟩)

theorem Schema.File.addTo_timestamps (file : File) (catalog : Catalog)
    (skipped : file.name = timestampFile) : file.addTo catalog = .ok catalog := by
  simp only [Schema.File.addTo, skipped, if_true, pure, Except.pure]

/-- Any of the files of a schema, named in any order, are added one after the other. -/
theorem Schema.addFiles {schema : Schema} (distinct : (schema.files.map (·.name)).Nodup)
    (files : List File) (members : ∀ file ∈ files, file ∈ schema.files) (catalog : Catalog) :
    (files.map (·.name)).foldlM schema.addNamed catalog =
      .ok ⟨catalog.outlines ++ (files.filter (·.name ≠ timestampFile)).map File.outline,
        (modelsOf (files.filter (·.name ≠ timestampFile))).reverse ++ catalog.known⟩ := by
  induction files generalizing catalog with
  | nil => simp [pure, Except.pure, modelsOf]
  | cons file rest ih =>
    have found : schema.file? file.name = some file :=
      find?_eq_some_of_nodup distinct (members file List.mem_cons_self)
    have others := ih fun other member => members other (List.mem_cons_of_mem _ member)
    rw [List.map_cons, List.foldlM_cons, Schema.addNamed, found]
    by_cases skipped : file.name = timestampFile
    · simp only [file.addTo_timestamps catalog skipped, skipped, ne_eq, not_true_eq_false,
        decide_false, Bool.false_eq_true, not_false_eq_true, List.filter_cons_of_neg]
      exact others catalog
    · simp only [file.addTo_eq_ok catalog skipped, skipped, ne_eq, not_false_eq_true, decide_true,
        List.filter_cons_of_pos]
      refine (others _).trans ?_
      simp only [modelsOf, List.map_cons, List.flatMap_cons, List.reverse_append, List.append_assoc,
        List.singleton_append, ne_eq]

/-- Extraction of accepted files never fails, and gives the catalog of their schema. -/
theorem Catalog.ofFiles_eq_ok {files : List FileDescriptor} {schema : Schema}
    (accepted : Schema.ofFiles files = .ok schema) :
    Catalog.ofFiles files = .ok schema.extracted := by
  obtain ⟨names, known⟩ := Schema.ofFiles_accepted accepted
  have run : schema.catalog (files.map (·.name)) = .ok schema.extracted := by
    rw [← known.file_names]
    exact Schema.addFiles known.distinct_files schema.files (fun _ member => member) .empty
  exact bind_eq_ok.mpr ⟨schema, accepted, orFailed_eq_ok.mpr run⟩

/-- What holds of every accepted file and the outline made from it, whatever the other files are. -/
theorem Accepted.outlines_related {R : FileDescriptor → Outline → Prop}
    {files : List FileDescriptor} {names : Pool.Names} {schema : Schema}
    (accepted : Accepted files names schema)
    (each : ∀ file ∈ files, ∀ resolved, Schema.resolveFile names files file = .ok resolved →
      R file resolved.outline) :
    List.Forall₂ R (files.filter (·.name ≠ timestampFile)) schema.extracted.outlines := by
  have kept : List.Forall₂ _ (files.filter (·.name ≠ timestampFile)) schema.clientFiles :=
    filter_forall₂ (forall₂_and_mem accepted.resolved) fun _ _ ⟨_, run⟩ => by rw [(Schema.resolveFile_eq_ok run).1]
  exact List.forall₂_map_right_iff.mpr
    (kept.imp fun file resolved ⟨member, run⟩ => each file member resolved run)

end FlowClients
