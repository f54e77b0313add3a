import FlowClients.Extraction
import FlowClients.Proofs.Pool.References

/-!
Files that have passed their checks. Every reference of such a file resolves, so that nothing is left
that could fail once the pool has taken the files: what the pool turns away is turned away for a
clash of names or for a check.
-/

namespace FlowClients

theorem exists_mem_withEarlier {α : Type} {xs : List α} {x : α} (earlier : List α)
    (member : x ∈ xs) : ∃ before, (before, x) ∈ withEarlier earlier xs := by
  rw [← map_snd_withEarlier earlier xs] at member
  obtain ⟨⟨before, _⟩, found, rfl⟩ := List.mem_map.mp member
  exact ⟨before, found⟩

theorem earlier_subset {α : Type} {earlier before xs : List α} {x : α}
    (member : (before, x) ∈ withEarlier earlier xs) : earlier ⊆ before := by
  induction xs generalizing earlier with
  | nil => cases member
  | cons first rest ih =>
    rw [withEarlier] at member
    rcases List.mem_cons.mp member with same | later
    · cases same
      exact List.Subset.refl _
    · exact List.Subset.trans (List.subset_append_left _ _) (ih later)

/-- What every element is to all before it holds pairwise. -/
theorem pairwise_of_withEarlier {α : Type} {R : α → α → Prop} {xs : List α} (earlier : List α)
    (each : ∀ before x, (before, x) ∈ withEarlier earlier xs → ∀ y ∈ before, R y x) :
    xs.Pairwise R := by
  induction xs generalizing earlier with
  | nil => exact List.Pairwise.nil
  | cons first rest ih =>
    have later : ∀ before x, (before, x) ∈ withEarlier (earlier ++ [first]) rest →
        ∀ y ∈ before, R y x :=
      fun before x member => each before x (List.mem_cons_of_mem _ member)
    refine List.pairwise_cons.mpr ⟨fun x member => ?_, ih _ later⟩
    obtain ⟨before, found⟩ := exists_mem_withEarlier (earlier ++ [first]) member
    exact later before x found first (earlier_subset found (by simp))

namespace Pool

/-! ### Elements of a file -/

theorem exists_messageElements {trees : List MessageTree} {tree : MessageTree} (scope : String)
    (path : Path) (index : Nat) (member : tree ∈ trees) :
    ∃ inner, messageElements scope inner tree ⊆ nestedElements scope path index trees := by
  induction trees generalizing index with
  | nil => cases member
  | cons first rest ih =>
    rw [nestedElements]
    rcases List.mem_cons.mp member with rfl | later
    · exact ⟨_, List.subset_append_left _ _⟩
    · obtain ⟨inner, within⟩ := ih (index + 1) later
      exact ⟨inner, List.subset_append_of_subset_right _ within⟩

theorem exists_field_element {file : FileDescriptor} {tree : MessageTree} {field : FieldDescriptor}
    {earlier : List FieldDescriptor} (declared : tree ∈ file.messages)
    (found : (earlier, field) ∈ withEarlier [] tree.root.fields) :
    ∃ path, (⟨qualify file.package tree.root.name, .field tree.root path earlier field⟩ :
      Element) ∈ fileElements file := by
  obtain ⟨inner, within⟩ := exists_messageElements file.package [4] 0 declared
  refine ⟨inner ++ [2, earlier.length], List.mem_cons_of_mem _ ?_⟩
  simp only [List.append_assoc]
  refine List.mem_append_left _ (within ?_)
  obtain ⟨root, nested⟩ := tree
  rw [messageElements]
  simp only [List.append_assoc]
  refine List.mem_cons_of_mem _ (List.mem_append_right _ (List.mem_append_left _ ?_))
  exact List.mem_map.mpr ⟨(earlier, field), found, rfl⟩

theorem method_element_mem {file : FileDescriptor} {service : ServiceDescriptor}
    {method : MethodDescriptor} (declared : service ∈ file.services)
    (member : method ∈ service.methods) :
    (⟨qualify file.package service.name, .method method⟩ : Element) ∈ fileElements file := by
  refine List.mem_cons_of_mem _ (List.mem_append_left _ (List.mem_append_right _ ?_))
  exact List.mem_flatMap.mpr
    ⟨service, declared, List.mem_cons_of_mem _ (List.mem_map.mpr ⟨method, member, rfl⟩)⟩

/-! ### References of a checked file -/

section Checked

variable {names : Names} {files : List FileDescriptor} {file : FileDescriptor}

/-- The position of a field stands in the text of an error only. -/
theorem View.fieldKind_path {view : View} {scope : String} {path : Path} {field : FieldDescriptor}
    {kind : FieldKind} (other : Path) (run : view.fieldKind scope path field = .ok kind) :
    view.fieldKind scope other field = .ok kind := by
  unfold View.fieldKind at run ⊢
  split at run
  · rename_i unnamed
    rw [if_pos unnamed]
    split at run
    · cases run
    · rename_i plain
      rwa [if_neg plain]
  · rename_i named
    rwa [if_neg named]

theorem exists_fieldKind (checked : checkFile names files file = .ok ()) {tree : MessageTree}
    {field : FieldDescriptor} (declared : tree ∈ file.messages)
    (member : field ∈ tree.root.fields) :
    ∃ kind, (viewOf names files file).fieldKind
      (qualify (qualify file.package tree.root.name) field.name) [] field = .ok kind := by
  obtain ⟨earlier, placed⟩ := exists_mem_withEarlier [] member
  obtain ⟨path, found⟩ := exists_field_element declared placed
  obtain ⟨_, _, rest⟩ := bind_eq_ok.mp (forM_eq_ok.mp checked _ found)
  obtain ⟨_, typed, _⟩ := bind_eq_ok.mp rest
  obtain ⟨kind, run, _⟩ := bind_eq_ok.mp typed
  exact ⟨kind, View.fieldKind_path [] run⟩

theorem number_ne_of_checkDistinct {earlier : List FieldDescriptor} {field other : FieldDescriptor}
    (run : checkDistinct earlier field = .ok ()) (member : other ∈ earlier) :
    other.number ≠ field.number := by
  unfold checkDistinct at run
  split at run
  · cases run
  · rename_i free
    simp only [List.any_eq_true, beq_iff_eq, not_exists, not_and] at free
    exact free other member

/-- No two fields of a message have the same number. -/
theorem distinct_numbers (checked : checkFile names files file = .ok ()) {tree : MessageTree}
    (declared : tree ∈ file.messages) : (tree.root.fields.map (·.number)).Nodup := by
  refine List.pairwise_map.mpr (pairwise_of_withEarlier [] ?_)
  intro earlier field placed other before
  obtain ⟨path, found⟩ := exists_field_element declared placed
  obtain ⟨_, _, rest⟩ := bind_eq_ok.mp (forM_eq_ok.mp checked _ found)
  obtain ⟨_, _, rest⟩ := bind_eq_ok.mp rest
  obtain ⟨_, _, distinct⟩ := bind_eq_ok.mp rest
  exact number_ne_of_checkDistinct distinct before

theorem exists_targets (checked : checkFile names files file = .ok ())
    {service : ServiceDescriptor} {method : MethodDescriptor} (declared : service ∈ file.services)
    (member : method ∈ service.methods) :
    ∃ request response,
      (viewOf names files file).resolve .message
        (qualify (qualify file.package service.name) method.name) method.inputType = .ok request ∧
      (viewOf names files file).resolve .message
        (qualify (qualify file.package service.name) method.name) method.outputType =
          .ok response := by
  have passed := forM_eq_ok.mp checked _ (method_element_mem declared member)
  obtain ⟨_, first, second⟩ := bind_eq_ok.mp passed
  obtain ⟨request, requested⟩ := discard_eq_ok.mp first
  obtain ⟨response, responded⟩ := discard_eq_ok.mp second
  exact ⟨request, response, requested, responded⟩

theorem View.meaning_of_resolve {view : View} {scope name : String} {target : Definition}
    (run : view.resolve .message scope name = .ok target) :
    ∃ descriptor, target.meaning = .message descriptor := by
  rcases Wanted.accepts_cases (View.resolve_found run).2 with message | ⟨enum, _⟩
  · exact message
  · cases enum

end Checked

end Pool

open Pool

namespace Schema

variable {names : Names} {files : List FileDescriptor} {file : FileDescriptor}

theorem exists_messageRef {view : View} {scope name : String} {target : Definition}
    (run : view.resolve .message scope name = .ok target) :
    ∃ ref, resolveMessageRef view scope name = .ok ref := by
  obtain ⟨descriptor, meaning⟩ := View.meaning_of_resolve run
  exact ⟨⟨target.fullName, descriptor.name⟩, bind_eq_ok.mpr ⟨target, run, by rw [meaning]; rfl⟩⟩

theorem exists_message (checked : checkFile names files file = .ok ()) {tree : MessageTree}
    (declared : tree ∈ file.messages) :
    ∃ message, resolveMessage (viewOf names files file) file.package tree = .ok message := by
  have each : ∀ field ∈ tree.root.fields, ∃ resolved,
      resolveField (viewOf names files file) (qualify file.package tree.root.name) field =
        .ok resolved := by
    intro field member
    obtain ⟨kind, run⟩ := exists_fieldKind checked declared member
    exact ⟨_, bind_eq_ok.mpr ⟨kind, run, rfl⟩⟩
  obtain ⟨fields, resolved⟩ := exists_forall₂ each
  exact ⟨_, bind_eq_ok.mpr ⟨fields, mapM_eq_ok.mpr resolved, rfl⟩⟩

theorem exists_service (checked : checkFile names files file = .ok ())
    {service : ServiceDescriptor} (declared : service ∈ file.services) :
    ∃ resolved, resolveService (viewOf names files file) file.package service = .ok resolved := by
  have each : ∀ method ∈ service.methods, ∃ resolved,
      resolveMethod (viewOf names files file) (qualify file.package service.name) method =
        .ok resolved := by
    intro method member
    obtain ⟨_, _, first, second⟩ := exists_targets checked declared member
    obtain ⟨request, requested⟩ := exists_messageRef first
    obtain ⟨response, responded⟩ := exists_messageRef second
    exact ⟨_, bind_eq_ok.mpr ⟨request, requested, bind_eq_ok.mpr ⟨response, responded, rfl⟩⟩⟩
  obtain ⟨methods, resolved⟩ := exists_forall₂ each
  exact ⟨_, bind_eq_ok.mpr ⟨methods, mapM_eq_ok.mpr resolved, rfl⟩⟩

/-- A file that has passed its checks resolves. -/
theorem exists_file (checked : checkFile names files file = .ok ()) :
    ∃ resolved, resolveFile names files file = .ok resolved := by
  obtain ⟨messages, resolvedMessages⟩ := exists_forall₂ fun _ member => exists_message checked member
  obtain ⟨services, resolvedServices⟩ := exists_forall₂ fun _ member => exists_service checked member
  exact ⟨_, bind_eq_ok.mpr ⟨messages, mapM_eq_ok.mpr resolvedMessages,
    bind_eq_ok.mpr ⟨services, mapM_eq_ok.mpr resolvedServices, rfl⟩⟩⟩

/-- A set of files is turned away for a clash of names or, if there is none, for a check. -/
theorem accept_eq_error {dialected : List (FileDescriptor × Dialect)} {cause : Rejection} :
    accept dialected = .error cause ↔ Names.ofFiles dialected = .error cause ∨
      ∃ names, Names.ofFiles dialected = .ok names ∧
        (dialected.map (·.1)).forM (checkFile names (dialected.map (·.1))) = .error cause := by
  cases named : Names.ofFiles dialected with
  | error clash =>
    have run : accept dialected = .error clash := by
      simp only [accept, named, bind, Except.bind]
    simp only [run, Except.error.injEq, reduceCtorEq, false_and, exists_false, or_false]
  | ok names =>
    cases checked : (dialected.map (·.1)).forM (checkFile names (dialected.map (·.1))) with
    | error failed =>
      have run : accept dialected = .error failed := by
        simp only [accept, named, checked, bind, Except.bind]
      simp only [run, Except.error.injEq, Except.ok.injEq, reduceCtorEq, exists_eq_left', checked,
        false_or]
    | ok passed =>
      obtain ⟨resolved, runs⟩ := exists_forall₂ fun file member =>
        exists_file (forM_eq_ok.mp checked file member)
      have run : accept dialected = .ok ⟨resolved⟩ :=
        bind_eq_ok.mpr ⟨names, named, bind_eq_ok.mpr
          ⟨passed, checked, bind_eq_ok.mpr ⟨resolved, mapM_eq_ok.mpr runs, rfl⟩⟩⟩
      simp only [run, Except.ok.injEq, reduceCtorEq, exists_eq_left', checked, or_self]

end Schema

/-! ### The verdict on a set of files -/

/-- Why the pool turns a set of files away: a clash of their names or, if there is none, the first
check that fails. -/
def PoolRejects (files : List FileDescriptor) (cause : Rejection) : Prop :=
  ∃ dialected, files.mapM (·.withDialect) = .ok dialected ∧
    (Names.ofFiles dialected = .error cause ∨
      ∃ names, Names.ofFiles dialected = .ok names ∧
        files.forM (checkFile names files) = .error cause)

theorem FileDescriptor.withDialect_eq_ok {file : FileDescriptor}
    {result : FileDescriptor × Dialect} (run : file.withDialect = .ok result) : result.1 = file := by
  unfold FileDescriptor.withDialect at run
  split at run
  · cases run
    rfl
  · cases run

theorem FileDescriptor.files_of_dialected {files : List FileDescriptor}
    {dialected : List (FileDescriptor × Dialect)}
    (looked : files.mapM (·.withDialect) = .ok dialected) : dialected.map (·.1) = files := by
  have firsts : dialected.map (·.1) = files.map id :=
    map_eq_of_forall₂ (mapM_eq_ok.mp looked) fun _ _ => FileDescriptor.withDialect_eq_ok
  rwa [List.map_id] at firsts

/-- Files whose dialects are all supported. -/
theorem FileDescriptor.exists_dialected {files : List FileDescriptor}
    (supported : ∀ file ∈ files, file.dialectName ∈ [none, some "proto2", some "proto3"]) :
    ∃ dialected, files.mapM (·.withDialect) = .ok dialected := by
  have each : ∀ file ∈ files, ∃ result, file.withDialect = .ok result := by
    intro file member
    have named := supported file member
    simp only [List.mem_cons, List.not_mem_nil, or_false] at named
    rcases named with stated | stated | stated
    · exact ⟨(file, .proto2), by simp [withDialect, dialect?, stated]⟩
    · exact ⟨(file, .proto2), by simp [withDialect, dialect?, stated]⟩
    · exact ⟨(file, .proto3), by simp [withDialect, dialect?, stated]⟩
  obtain ⟨dialected, results⟩ := exists_forall₂ each
  exact ⟨dialected, mapM_eq_ok.mpr results⟩

namespace PoolRejects

variable {files : List FileDescriptor} {cause other : Rejection}

theorem ofFiles_eq_error (rejects : PoolRejects files cause) :
    Schema.ofFiles files = .error (.failed (.rejected cause)) := by
  obtain ⟨dialected, looked, verdict⟩ := rejects
  have refused : Schema.accept dialected = .error cause := by
    rw [Schema.accept_eq_error, FileDescriptor.files_of_dialected looked]
    exact verdict
  simp only [Schema.ofFiles, looked, refused, bind, Except.bind]
  rfl

/-- The pool states one cause. -/
theorem unique (rejects : PoolRejects files cause) (again : PoolRejects files other) :
    cause = other := by
  have same := rejects.ofFiles_eq_error.symm.trans again.ofFiles_eq_error
  injection same with failed
  injection failed with rejected
  injection rejected

end PoolRejects

/-- Files in supported dialects are accepted or turned away by the pool. -/
theorem Schema.ofFiles_cases {files : List FileDescriptor}
    (supported : ∀ file ∈ files, file.dialectName ∈ [none, some "proto2", some "proto3"]) :
    (∃ schema, Schema.ofFiles files = .ok schema) ∨ ∃ cause, PoolRejects files cause := by
  obtain ⟨dialected, looked⟩ := FileDescriptor.exists_dialected supported
  cases verdict : Schema.accept dialected with
  | ok schema =>
    exact Or.inl ⟨schema, bind_eq_ok.mpr ⟨dialected, looked, orFailed_eq_ok.mpr verdict⟩⟩
  | error cause =>
    have known := Schema.accept_eq_error.mp verdict
    rw [FileDescriptor.files_of_dialected looked] at known
    exact Or.inr ⟨cause, dialected, looked, known⟩

end FlowClients
