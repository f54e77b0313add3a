import FlowClients.Proofs.CompleteOutlines
import Mathlib.Data.List.Perm.Basic

/-!
The order of the fields of a model. It is that of their numbers, so it is the order of their
declaration only where the numbers increase from one field of a message to the next.
-/

namespace FlowClients

open Pool

/-- Each field has a smaller number than all fields after it. -/
def NumbersIncrease (fields : List FieldDescriptor) : Prop :=
  fields.Pairwise fun a b => a.number < b.number

instance (fields : List FieldDescriptor) : Decidable (NumbersIncrease fields) :=
  inferInstanceAs (Decidable (fields.Pairwise _))

/-- The declared fields of a message, from the lowest number to the highest. -/
structure ByNumber (declared ordered : List FieldDescriptor) : Prop where
  reordered : ordered.Perm declared
  increase : NumbersIncrease ordered

namespace ByNumber

variable {declared ordered : List FieldDescriptor}

/-- The numbers leave one order only. -/
theorem unique {other : List FieldDescriptor} (first : ByNumber declared ordered)
    (second : ByNumber declared other) : ordered = other := by
  have perm := first.reordered.trans second.reordered.symm
  refine perm.eq_of_pairwise (fun a b _ _ below above => ?_) first.increase second.increase
  omega

theorem eq_iff (sorted : ByNumber declared ordered) :
    ordered = declared ↔ NumbersIncrease declared := by
  constructor
  · rintro rfl
    exact sorted.increase
  · exact fun increase => sorted.unique ⟨List.Perm.refl declared, increase⟩

/-- Under different names no two orders of the fields look the same. -/
theorem names_eq_iff (sorted : ByNumber declared ordered)
    (distinct : (declared.map (·.name)).Nodup) :
    ordered.map (·.name) = declared.map (·.name) ↔ NumbersIncrease declared := by
  rw [← sorted.eq_iff]
  refine ⟨fun same => ?_, fun same => same ▸ rfl⟩
  refine List.ext_getElem sorted.reordered.length_eq fun i inOrdered inDeclared => ?_
  have sameName : ordered[i].name = declared[i].name := by
    simpa [inOrdered, inDeclared] using congrArg (·[i]?) same
  exact List.inj_on_of_nodup_map distinct (sorted.reordered.subset (List.getElem_mem inOrdered))
    (List.getElem_mem inDeclared) sameName

end ByNumber

theorem Schema.numbers_of_resolveMessage {view : View} {package : String} {tree : MessageTree}
    {message : Schema.Message} (run : Schema.resolveMessage view package tree = .ok message) :
    (message.fields.map (·.number)).Pairwise (· < ·) := by
  obtain ⟨_, fields, sorted, _⟩ := Schema.resolveMessage_eq_ok run
  rw [List.pairwise_map, sorted]
  exact (fieldOrder.sorted fields).imp of_decide_eq_true

/-- A message is resolved field by field, from the lowest number to the highest. -/
theorem Schema.exists_byNumber {names : Names} {files : List FileDescriptor}
    {file : FileDescriptor} {tree : MessageTree} {message : Schema.Message}
    (checked : checkFile names files file = .ok ()) (declared : tree ∈ file.messages)
    (run : Schema.resolveMessage (viewOf names files file) file.package tree = .ok message) :
    ∃ ordered, ByNumber tree.root.fields ordered ∧
      List.Forall₂ (fun descriptor field => Schema.resolveField (viewOf names files file)
        (qualify file.package tree.root.name) descriptor = .ok field) ordered message.fields := by
  obtain ⟨fields, reordered, runs⟩ := Schema.fields_of_resolveMessage checked declared run
  -- The order of the resolved fields is given to the declared ones.
  obtain ⟨ordered, each, perm⟩ := List.perm_comp_forall₂ reordered runs.flip
  have resolved := each.flip
  have sameNumbers : message.fields.map (·.number) = ordered.map (·.number) :=
    map_eq_of_forall₂ resolved fun _ _ run => (Schema.resolveField_eq_ok run).2.1
  have increase := Schema.numbers_of_resolveMessage run
  rw [sameNumbers, List.pairwise_map] at increase
  exact ⟨ordered, ⟨perm, increase⟩, resolved⟩

/-- The wire names of a model that is extracted from accepted files are those of the fields of its
message, from the lowest number to the highest. They stand in the order of the declaration exactly
if the numbers increase in that order. -/
theorem wire_names_by_number {files : List FileDescriptor} {schema : Schema}
    (accepted : Schema.ofFiles files = .ok schema) :
    ∃ catalog, Catalog.ofFiles files = .ok catalog ∧
      List.Forall₂ (fun file outline => List.Forall₂ (fun tree model =>
          (∃ ordered, ByNumber tree.root.fields ordered ∧
            model.fields.map (·.wireName) = ordered.map (·.name)) ∧
          (model.fields.map (·.wireName) = tree.root.fields.map (·.name) ↔
            NumbersIncrease tree.root.fields))
          file.messages outline.models)
        (files.filter (·.name ≠ timestampFile)) catalog.outlines := by
  obtain ⟨names, _, checked, known⟩ := Schema.ofFiles_eq_ok accepted
  refine ⟨schema.extracted, Catalog.ofFiles_eq_ok accepted, known.outlines_related ?_⟩
  intro file present resolved run
  obtain ⟨_, _, messages, _⟩ := Schema.resolveFile_eq_ok run
  refine List.forall₂_map_right_iff.mpr ((forall₂_and_mem messages).imp ?_)
  intro tree message ⟨declared, run⟩
  obtain ⟨ordered, sorted, each⟩ := Schema.exists_byNumber (checked file present) declared run
  have wireNames : (message.extract (moduleFile resolved.name)).fields.map (·.wireName) =
      ordered.map (·.name) := by
    rw [Schema.Message.extract, List.map_map]
    exact map_eq_of_forall₂ each fun _ _ run => (Schema.resolveField_eq_ok run).1
  refine ⟨⟨ordered, sorted, wireNames⟩, ?_⟩
  rw [wireNames]
  exact sorted.names_eq_iff (known.distinct_fieldNames present declared)

def FieldDescriptor.text (name : String) (number : Int) : FieldDescriptor :=
  ⟨name, number, .optional, .string, "", none, none, none, none⟩

/-- The numbers of the first message go up and down, those of the second leave gaps. -/
def deskFiles : List FileDescriptor :=
  [.plain "desk.proto" "desk" []
    [.plain "Ticket" [.text "title" 20, .text "id" 1, .text "opened_by" 3] [],
      .plain "Queue" [.text "name" 2, .text "head" 5] []] []]

def deskSchema : Schema :=
  let field (name : String) (number : Int) : Schema.Field :=
    ⟨name, number, false, .scalar .string⟩
  ⟨[⟨"desk.proto", "desk",
    [⟨"Ticket", [field "id" 1, field "opened_by" 3, field "title" 20]⟩,
      ⟨"Queue", [field "name" 2, field "head" 5]⟩], []⟩]⟩

theorem deskFiles_accepted : Schema.ofFiles deskFiles = .ok deskSchema := by rfl

theorem wire_names_by_number_desk :
    ∃ catalog outline ticket queue, Catalog.ofFiles deskFiles = .ok catalog ∧
      catalog.outlines = [outline] ∧ outline.models = [ticket, queue] ∧
      ticket.fields.map (·.wireName) = ["id", "opened_by", "title"] ∧
      queue.fields.map (·.wireName) = ["name", "head"] := by
  obtain ⟨catalog, run, ordered⟩ := wire_names_by_number deskFiles_accepted
  have kept : deskFiles.filter (·.name ≠ timestampFile) = deskFiles := rfl
  rw [kept] at ordered
  obtain ⟨outline, _, models, none, only⟩ := List.forall₂_cons_left_iff.mp ordered
  cases none
  obtain ⟨ticket, _, ⟨⟨fields, sorted, names⟩, _⟩, rest, both⟩ :=
    List.forall₂_cons_left_iff.mp models
  obtain ⟨queue, _, ⟨_, asDeclared⟩, none, single⟩ := List.forall₂_cons_left_iff.mp rest
  cases none
  rw [single] at both
  have byNumber : fields = [.text "id" 1, .text "opened_by" 3, .text "title" 20] :=
    sorted.unique ⟨List.perm_append_singleton _ [_, _], by decide⟩
  refine ⟨catalog, outline, ticket, queue, run, only, both, ?_, asDeclared.mpr (by decide)⟩
  rw [names, byNumber]
  rfl

/-- The fields of the first message do not come in the order of their declaration. -/
theorem declaration_order_lost :
    ∃ catalog, Catalog.ofFiles deskFiles = .ok catalog ∧
      ¬ List.Forall₂ (fun file outline => List.Forall₂ (fun tree model =>
          model.fields.map (·.wireName) = tree.root.fields.map (·.name))
          file.messages outline.models)
        (deskFiles.filter (·.name ≠ timestampFile)) catalog.outlines :=
  ⟨deskSchema.extracted, Catalog.ofFiles_eq_ok deskFiles_accepted, by decide⟩

end FlowClients
