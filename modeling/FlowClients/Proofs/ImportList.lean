import FlowClients.Proofs.ByteOrder
import FlowClients.Proofs.Imports

/-!
The import list of a module as a whole. It has every foreign model that the module mentions, each
once, in the order of the bytes of file and name. In which order the module lists its own members,
and how often it repeats one, makes no difference.
-/

namespace FlowClients

open Wire

/-- The order of imported models: by the bytes of the file, then by those of the name. -/
def BeforeInBytes (a b : String × String) : Prop :=
  utf8Bytes a.1 < utf8Bytes b.1 ∨ a.1 = b.1 ∧ utf8Bytes a.2 < utf8Bytes b.2

/-- Each element of one list has a counterpart in the other, wherever and however often. -/
def SameUpTo {α : Type} (alike : α → α → Prop) (xs ys : List α) : Prop :=
  (∀ x ∈ xs, ∃ y ∈ ys, alike x y) ∧ ∀ y ∈ ys, ∃ x ∈ xs, alike x y

instance {α : Type} (alike : α → α → Prop) [DecidableRel alike] (xs ys : List α) :
    Decidable (SameUpTo alike xs ys) :=
  inferInstanceAs (Decidable (_ ∧ _))

theorem SameUpTo.symm {α : Type} {alike : α → α → Prop} {xs ys : List α}
    (same : SameUpTo alike xs ys) (turn : ∀ x y, alike x y → alike y x) : SameUpTo alike ys xs := by
  refine ⟨fun y member => ?_, fun x member => ?_⟩
  · obtain ⟨x, present, related⟩ := same.2 y member
    exact ⟨x, present, turn x y related⟩
  · obtain ⟨y, present, related⟩ := same.1 x member
    exact ⟨y, present, turn x y related⟩

/-- The same model but for the order of its fields and repeated ones. -/
structure Model.Rearranged (model other : Model) : Prop where
  head : (other.file, other.name, other.builtin) = (model.file, model.name, model.builtin)
  fields : SameUpTo Eq model.fields other.fields

instance : DecidableRel Model.Rearranged := fun _ _ =>
  decidable_of_iff (_ ∧ _)
    ⟨fun ⟨head, fields⟩ => ⟨head, fields⟩, fun held => ⟨held.head, held.fields⟩⟩

/-- The same service but for the order of its methods and repeated ones. -/
structure Service.Rearranged (service other : Service) : Prop where
  head : (other.name, other.package) = (service.name, service.package)
  methods : SameUpTo Eq service.methods other.methods

instance : DecidableRel Service.Rearranged := fun _ _ =>
  decidable_of_iff (_ ∧ _)
    ⟨fun ⟨head, methods⟩ => ⟨head, methods⟩, fun held => ⟨held.head, held.methods⟩⟩

namespace Outline

/-- The same outline but for the order of its models, services, fields and methods and repeated
ones. -/
structure Rearranged (outline other : Outline) : Prop where
  file : other.file = outline.file
  models : SameUpTo Model.Rearranged outline.models other.models
  services : SameUpTo Service.Rearranged outline.services other.services

instance : DecidableRel Rearranged := fun _ _ =>
  decidable_of_iff (_ ∧ _ ∧ _) ⟨fun ⟨file, models, services⟩ => ⟨file, models, services⟩,
    fun held => ⟨held.file, held.models, held.services⟩⟩

/-- A field or a method of the module mentions the type. -/
def Mentions (outline : Outline) (type : String) : Prop :=
  (∃ model ∈ outline.models, ∃ field ∈ model.fields, field.singleType = type) ∨
    ∃ service ∈ outline.services, ∃ method ∈ service.methods,
      method.request = type ∨ method.response = type

/-- The module mentions a type that stands for a model of this file and name. The language does not
have the model itself, and it is placed in another module. -/
def MentionsForeign (outline : Outline) (catalog : Catalog) (target : String × String) : Prop :=
  ∃ type, outline.Mentions type ∧ ∃ model, catalog.find? type = some model ∧
    model.builtin = false ∧ model.file ≠ outline.file ∧ (model.file, model.name) = target

variable {outline other : Outline} {catalog : Catalog} {type : String}

theorem mem_mentionedTypes : type ∈ outline.mentionedTypes ↔ outline.Mentions type := by
  simp only [mentionedTypes, Mentions, List.mem_append, List.mem_flatMap, List.mem_map,
    List.mem_cons, List.not_mem_nil, or_false, eq_comm (a := type)]

theorem mem_importTargets_iff {target : String × String} :
    target ∈ outline.importTargets catalog ↔ outline.MentionsForeign catalog target := by
  simp only [mem_importTargets, mem_mentionedTypes, MentionsForeign]

/-! ### Order -/

theorem importBelow_iff_bytes {a b : String × String} :
    importBelow a b = true ↔ BeforeInBytes a b := by
  simp only [importBelow, BeforeInBytes, utf8Bytes_lt_iff, Bool.or_eq_true, Bool.and_eq_true,
    decide_eq_true_eq, beq_iff_eq]

theorem importTargets_increasing (outline : Outline) (catalog : Catalog) :
    (outline.importTargets catalog).Pairwise BeforeInBytes :=
  (importOrder.sorted _).imp importBelow_iff_bytes.mp

/-- A name stands for one model, so no two imports have the same one. -/
theorem imported_models_nodup (outline : Outline) (catalog : Catalog) :
    ((outline.imports catalog).map (·.model)).Nodup := by
  rw [imports, List.map_map]
  refine (outline.importTargets_nodup catalog).map_on fun a first b second same => ?_
  obtain ⟨_, _, model, found, _, _, rfl⟩ := mem_importTargets.mp first
  obtain ⟨_, _, last, lastFound, _, _, rfl⟩ := mem_importTargets.mp second
  have named : model.name = last.name := same
  cases Catalog.find?_name found
  cases Catalog.find?_name lastFound
  rw [named, lastFound] at found
  cases found
  rfl

/-! ### Rearranged modules -/

theorem Rearranged.mentions (rearranged : outline.Rearranged other)
    (mentions : outline.Mentions type) : other.Mentions type := by
  rcases mentions with
    ⟨model, declared, field, member, named⟩ | ⟨service, listed, method, member, named⟩
  · obtain ⟨counterpart, present, alike⟩ := rearranged.models.1 model declared
    obtain ⟨_, inside, rfl⟩ := alike.fields.1 field member
    exact Or.inl ⟨counterpart, present, _, inside, named⟩
  · obtain ⟨counterpart, present, alike⟩ := rearranged.services.1 service listed
    obtain ⟨_, inside, rfl⟩ := alike.methods.1 method member
    exact Or.inr ⟨counterpart, present, _, inside, named⟩

theorem Rearranged.symm (rearranged : outline.Rearranged other) : other.Rearranged outline where
  file := rearranged.file.symm
  models := rearranged.models.symm fun _ _ alike =>
    ⟨alike.head.symm, alike.fields.symm fun _ _ => Eq.symm⟩
  services := rearranged.services.symm fun _ _ alike =>
    ⟨alike.head.symm, alike.methods.symm fun _ _ => Eq.symm⟩

theorem Rearranged.mentions_iff (rearranged : outline.Rearranged other) :
    other.Mentions type ↔ outline.Mentions type :=
  ⟨rearranged.symm.mentions, rearranged.mentions⟩

theorem Rearranged.imports_eq (rearranged : outline.Rearranged other) (catalog : Catalog) :
    other.imports catalog = outline.imports catalog := by
  have targets : other.importTargets catalog = outline.importTargets catalog := by
    refine importOrder.eq_of_mem_iff (importOrder.sorted _) (importOrder.sorted _) fun target => ?_
    simp only [mem_importTargets_iff, MentionsForeign, rearranged.mentions_iff, rearranged.file]
  rw [imports, imports, targets, rearranged.file]

end Outline

/-- The imports of any outline in any catalog: the foreign models that it mentions, listed in
strictly increasing order of the bytes of file and name, each with the way to its file. No name
occurs twice, and rearranging the outline changes nothing. -/
theorem imports_exact (catalog : Catalog) (outline : Outline) :
    (∃ targets : List (String × String), targets.Pairwise BeforeInBytes ∧
      (∀ target, target ∈ targets ↔ outline.MentionsForeign catalog target) ∧
      outline.imports catalog =
        targets.map fun (file, name) => ⟨Specifier.between outline.file file, name⟩) ∧
    ((outline.imports catalog).map (·.model)).Nodup ∧
    ∀ other, outline.Rearranged other → other.imports catalog = outline.imports catalog :=
  ⟨⟨outline.importTargets catalog, outline.importTargets_increasing catalog,
    fun _ => Outline.mem_importTargets_iff, rfl⟩,
    outline.imported_models_nodup catalog, fun _ rearranged => rearranged.imports_eq catalog⟩

def Field.single (name type : String) : Field := ⟨name, type, name, wireTypeName type, true, false⟩

def Field.listed (name item : String) : Field :=
  ⟨name, listType item, name, listType (wireTypeName item), true, true⟩

/-- Two models of one module, one of another, and a module that mentions them all, some of them
twice, and the type of timestamps and its own model besides. -/
def fruitHistory : List Catalog.Step :=
  [.openModule "pear.js", .model ⟨"pear.js", "Pear", false, []⟩,
    .model ⟨"pear.js", "Core", false, []⟩,
    .openModule "fruits/apple.js", .model ⟨"fruits/apple.js", "Apple", false, []⟩,
    .openModule "bowl.js", .model ⟨"bowl.js", "Bowl", false,
      [.single "pear" "Pear", .listed "apples" "Apple", .single "picked" "Date",
        .single "inner" "Bowl"]⟩,
    .service ⟨"Kitchen", "fruits",
      [⟨"peel", "Peel", "apple", "Apple", "Core"⟩, ⟨"fill", "Fill", "bowl", "Bowl", "Bowl"⟩]⟩]

def bowlOutline : Outline :=
  ⟨"bowl.js", [⟨"bowl.js", "Bowl", false, [.single "pear" "Pear", .listed "apples" "Apple",
      .single "picked" "Date", .single "inner" "Bowl"]⟩],
    [⟨"Kitchen", "fruits",
      [⟨"peel", "Peel", "apple", "Apple", "Core"⟩, ⟨"fill", "Fill", "bowl", "Bowl", "Bowl"⟩]⟩]⟩

/-- The last module with its fields and methods in another order, one of each repeated. -/
def otherBowlOutline : Outline :=
  ⟨"bowl.js", [⟨"bowl.js", "Bowl", false, [.single "inner" "Bowl", .listed "apples" "Apple",
      .single "pear" "Pear", .listed "apples" "Apple", .single "picked" "Date"]⟩],
    [⟨"Kitchen", "fruits",
      [⟨"fill", "Fill", "bowl", "Bowl", "Bowl"⟩, ⟨"peel", "Peel", "apple", "Apple", "Core"⟩,
        ⟨"fill", "Fill", "bowl", "Bowl", "Bowl"⟩]⟩]⟩

theorem imports_exact_fruits :
    bowlOutline ∈ (Catalog.empty.steps fruitHistory).outlines ∧
      bowlOutline.Rearranged otherBowlOutline ∧
      otherBowlOutline.imports (Catalog.empty.steps fruitHistory) =
        [⟨"./fruits/apple", "Apple"⟩, ⟨"./pear", "Core"⟩, ⟨"./pear", "Pear"⟩] := by
  have rearranged : bowlOutline.Rearranged otherBowlOutline := by decide
  refine ⟨by decide, rearranged, ?_⟩
  obtain ⟨_, _, unchanged⟩ := imports_exact (Catalog.empty.steps fruitHistory) bowlOutline
  exact (unchanged otherBowlOutline rearranged).trans (by decide)

end FlowClients
