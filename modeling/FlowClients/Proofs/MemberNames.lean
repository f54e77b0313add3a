import FlowClients.ClientModule
import FlowClients.Proofs.CompleteOutlines
import FlowClients.Proofs.LetterCase
import FlowClients.Proofs.Pool.FoldedNames

/-!
The names of the members of a model. Two wire names of a message in the newer dialect differ even
without underscores and in small letters. Member names are wire names without underscores, up to the
case of their letters, so they differ as well.
-/

namespace FlowClients

open Pool

/-- No key is used twice in the two types of a model, nor in the objects that its two converters
build. The types and the converters have one member each for every member of the model. -/
structure ModelDecl.DistinctKeys (model : ModelDecl) : Prop where
  memory : (model.members.map (·.name)).Nodup
  wire : (model.members.map (·.wireName)).Nodup

theorem memberNames_nodup {fields : List FieldDescriptor}
    (ascii : ∀ field ∈ fields, isAscii field.name = true)
    (folded : (fields.map (foldedName ·.name)).Nodup) :
    (fields.map (memberName ·.name)).Nodup := by
  -- The folded names are a function of the member names.
  have lowered : (fields.map (memberName ·.name)).map (·.toList.map Char.toLower) =
      fields.map (foldedName ·.name) := by
    rw [List.map_map]
    exact List.map_congr_left fun field member => toLower_memberName (ascii field member)
  exact List.Nodup.of_map (·.toList.map Char.toLower) (lowered ▸ folded)

namespace Model.Mirrors

variable {model : Model} {view : View} {file : FileDescriptor} {tree : MessageTree}

theorem wireNames (mirrors : model.Mirrors view file tree) :
    (model.fields.map (·.wireName)).Perm (tree.root.fields.map (·.name)) := by
  obtain ⟨fields, reordered, each⟩ := mirrors.fields
  have same : fields.map (·.wireName) = tree.root.fields.map (·.name) :=
    map_eq_of_forall₂ each fun _ _ field => field.wireName
  exact same ▸ reordered.symm.map _

theorem names (mirrors : model.Mirrors view file tree) :
    (model.fields.map (·.name)).Perm (tree.root.fields.map (memberName ·.name)) := by
  obtain ⟨fields, reordered, each⟩ := mirrors.fields
  have same : fields.map (·.name) = tree.root.fields.map (memberName ·.name) :=
    map_eq_of_forall₂ each fun _ _ field => field.name
  exact same ▸ reordered.symm.map _

end Model.Mirrors

theorem Model.distinctKeys_declaration {model : Model}
    (names : (model.fields.map (·.name)).Nodup) (wireNames : (model.fields.map (·.wireName)).Nodup) :
    model.declaration.DistinctKeys := by
  constructor
  · rwa [Model.declaration, List.map_map]
  · rwa [Model.declaration, List.map_map]

/-- The wire names of a model are those of the fields of its message, and its member names are made
from them. The former are distinct in every model that is extracted from accepted files, the latter
if the file is in the newer dialect and the names are ASCII names. -/
theorem member_names_nodup {files : List FileDescriptor} {schema : Schema}
    (accepted : Schema.ofFiles files = .ok schema) :
    ∃ catalog, Catalog.ofFiles files = .ok catalog ∧
      List.Forall₂ (fun file outline => outline.file = moduleFile file.name ∧
        List.Forall₂ (fun tree model => model.name = tree.root.name ∧
          (model.fields.map (·.wireName)).Perm (tree.root.fields.map (·.name)) ∧
          (model.fields.map (·.name)).Perm (tree.root.fields.map (memberName ·.name)) ∧
          (model.fields.map (·.wireName)).Nodup ∧
          (file.dialectName = some "proto3" →
            (∀ field ∈ tree.root.fields, isAscii field.name = true) →
            (model.fields.map (·.name)).Nodup ∧ model.declaration.DistinctKeys))
          file.messages outline.models)
        (files.filter (·.name ≠ timestampFile)) catalog.outlines := by
  obtain ⟨names, named, checked, known⟩ := Schema.ofFiles_eq_ok accepted
  refine ⟨schema.extracted, Catalog.ofFiles_eq_ok accepted, known.outlines_related ?_⟩
  intro file present resolved run
  have mirrored := Schema.File.mirrors_outline (checked file present) run
  have within := (List.forall₂_and_left _ _).mpr ⟨fun _ member => member, mirrored.models⟩
  refine ⟨mirrored.path, within.imp fun tree model ⟨declared, mirrors⟩ => ?_⟩
  have wireNames : (model.fields.map (·.wireName)).Nodup :=
    mirrors.wireNames.nodup_iff.mpr (known.distinct_fieldNames present declared)
  refine ⟨mirrors.name, mirrors.wireNames, mirrors.names, wireNames, fun stated ascii => ?_⟩
  have newer : file.dialect? = some .proto3 := by
    rw [FileDescriptor.dialect?, stated]
    rfl
  have folded := named.distinct_foldedNames present newer declared
  have memory : (model.fields.map (·.name)).Nodup :=
    mirrors.names.nodup_iff.mpr (memberNames_nodup ascii folded)
  exact ⟨memory, Model.distinctKeys_declaration memory wireNames⟩

/-- A file of the newer dialect with names that begin with an underscore, have several in a row or
have capitals. -/
def accountFiles : List FileDescriptor :=
  let field (name : String) (number : Int) : FieldDescriptor :=
    ⟨name, number, .optional, .string, "", none, none, none, none⟩
  [{ FileDescriptor.plain "account.proto" "bank" []
      [.plain "Account" [field "user_ID" 2, field "_name" 1, field "x1__y_" 3] []] []
    with dialectName := some "proto3" }]

def accountSchema : Schema :=
  let field (name : String) (number : Int) : Schema.Field :=
    ⟨name, number, false, .scalar .string⟩
  ⟨[⟨"account.proto", "bank",
    [⟨"Account", [field "_name" 1, field "user_ID" 2, field "x1__y_" 3]⟩], []⟩]⟩

theorem accountFiles_accepted : Schema.ofFiles accountFiles = .ok accountSchema := by rfl

theorem member_names_nodup_account :
    ∃ catalog outline model, Catalog.ofFiles accountFiles = .ok catalog ∧
      catalog.outlines = [outline] ∧ outline.models = [model] ∧
      (model.fields.map (·.name)).Perm ["userId", "Name", "x1Y"] ∧
      (model.fields.map (·.name)).Nodup ∧ model.declaration.DistinctKeys := by
  obtain ⟨catalog, run, named⟩ := member_names_nodup accountFiles_accepted
  have kept : accountFiles.filter (·.name ≠ timestampFile) = accountFiles := rfl
  rw [kept] at named
  obtain ⟨outline, _, ⟨_, models⟩, none, only⟩ := List.forall₂_cons_left_iff.mp named
  cases none
  obtain ⟨model, _, ⟨_, _, names, _, distinct⟩, none, single⟩ :=
    List.forall₂_cons_left_iff.mp models
  cases none
  obtain ⟨memory, keys⟩ := distinct rfl (by decide)
  exact ⟨catalog, outline, model, run, only, single, names, memory, keys⟩

end FlowClients
