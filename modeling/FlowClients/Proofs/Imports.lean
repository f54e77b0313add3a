import FlowClients.Outline.CallShape
import FlowClients.Outline.Import
import FlowClients.Proofs.Extraction
import Mathlib.Data.Prod.Lex
import Mathlib.Data.String.Basic

/-!
What simple names stand for in the catalog of a schema, and which of them a module imports: every
model that a mentioned name stands for and that another module declares, once.
-/

namespace FlowClients

namespace Schema

theorem mem_modelsOf {files : List File} {model : Model} :
    model ∈ modelsOf files ↔
      ∃ file ∈ files, ∃ message ∈ file.messages, message.extract (moduleFile file.name) = model := by
  simp only [modelsOf, List.mem_flatMap, File.outline, List.mem_map]

theorem builtin_of_mem {schema : Schema} {model : Model}
    (member : model ∈ schema.extracted.models) : model.builtin = false := by
  rw [models_extracted] at member
  obtain ⟨_, _, _, _, rfl⟩ := mem_modelsOf.mp member
  rfl

/-- The name of an extracted model stands for an extracted model, if not for the same one. -/
theorem extracted_find?_isSome {schema : Schema} {model : Model}
    (member : model ∈ modelsOf schema.clientFiles) :
    ∃ last ∈ modelsOf schema.clientFiles, schema.extracted.find? model.name = some last := by
  rw [← models_extracted] at member ⊢
  obtain ⟨last, lastMember, _, found⟩ := schema.extracted_agrees.find?_of_mem member
  exact ⟨last, lastMember, found⟩

/-- A name that only one model has stands for that model, wherever its file comes in the order. -/
theorem extracted_find?_eq_some {schema : Schema} {model : Model}
    (distinct : ((modelsOf schema.clientFiles).map (·.name)).Nodup)
    (member : model ∈ modelsOf schema.clientFiles) :
    schema.extracted.find? model.name = some model := by
  obtain ⟨last, lastMember, found⟩ := extracted_find?_isSome member
  rw [found, List.inj_on_of_nodup_map distinct lastMember member (Catalog.find?_name found)]

end Schema

/-! ### Imports -/

namespace Outline

theorem importBelow_iff {a b : String × String} : importBelow a b = true ↔ toLex a < toLex b := by
  simp only [importBelow, Bool.or_eq_true, decide_eq_true_eq, Bool.and_eq_true, beq_iff_eq,
    Prod.Lex.toLex_lt_toLex]

theorem importBelow_total (a b : String × String) (different : a ≠ b) :
    importBelow a b = true ∨ importBelow b a = true := by
  simp only [importBelow_iff]
  exact lt_or_gt_of_ne fun same => different (toLex.injective same)

theorem importOrder : StrictOrder importBelow where
  irrefl a := by
    rw [Bool.eq_false_iff, ne_eq, importBelow_iff]
    exact lt_irrefl _
  trans first second := by
    rw [importBelow_iff] at *
    exact lt_trans first second
  tied {a b c} first second third := by
    have same : a = b := by
      by_contra different
      rcases importBelow_total a b different with under | above
      · rw [first] at under
        cases under
      · rw [second] at above
        cases above
    rwa [same]

theorem guard_eq_some {p : Prop} [Decidable p] {u : Unit} :
    (guard p : Option Unit) = some u ↔ p := by
  by_cases held : p
  · rw [guard, if_pos held]
    exact iff_of_true rfl held
  · rw [guard, if_neg held]
    exact iff_of_false (Option.some_ne_none u).symm held

theorem foreign?_eq_some {outline : Outline} {catalog : Catalog} {type : String}
    {target : String × String} :
    outline.foreign? catalog type = some target ↔
      ∃ model, catalog.find? type = some model ∧ model.builtin = false ∧
        model.file ≠ outline.file ∧ (model.file, model.name) = target := by
  have foreign (model : Model) : (!model.builtin && model.file != outline.file) = true ↔
      model.builtin = false ∧ model.file ≠ outline.file := by
    simp only [Bool.and_eq_true, Bool.not_eq_true', bne_iff_ne]
  constructor
  · intro run
    obtain ⟨model, found, rest⟩ := Option.bind_eq_some_iff.mp run
    obtain ⟨_, guarded, result⟩ := Option.bind_eq_some_iff.mp rest
    obtain ⟨declared, elsewhere⟩ := (foreign model).mp (guard_eq_some.mp guarded)
    exact ⟨model, found, declared, elsewhere, Option.some.inj result⟩
  · rintro ⟨model, found, declared, elsewhere, rfl⟩
    have other := (foreign model).mpr ⟨declared, elsewhere⟩
    exact Option.bind_eq_some_iff.mpr
      ⟨model, found, Option.bind_eq_some_iff.mpr ⟨(), guard_eq_some.mpr other, rfl⟩⟩

/-- What is imported is the model that a mentioned name stands for, unless the language has it or
the module itself declares it. -/
theorem mem_importTargets {outline : Outline} {catalog : Catalog} {target : String × String} :
    target ∈ outline.importTargets catalog ↔
      ∃ type ∈ outline.mentionedTypes, ∃ model, catalog.find? type = some model ∧
        model.builtin = false ∧ model.file ≠ outline.file ∧ (model.file, model.name) = target := by
  rw [importTargets, mem_sorted importBelow_total, List.mem_filterMap]
  simp only [foreign?_eq_some]

theorem importTargets_nodup (outline : Outline) (catalog : Catalog) :
    (outline.importTargets catalog).Nodup :=
  importOrder.nodup _

theorem filter_eq_singleton {α : Type} {p : α → Bool} {xs : List α} {x : α} (distinct : xs.Nodup)
    (member : x ∈ xs) (passes : p x = true) (only : ∀ y ∈ xs, p y = true → y = x) :
    xs.filter p = [x] := by
  have all : xs.filter p = List.replicate (xs.filter p).length x :=
    List.eq_replicate_of_mem fun y found =>
      only y (List.mem_filter.mp found).1 (List.mem_filter.mp found).2
  have atMost : (xs.filter p).length ≤ 1 := by
    have nodup := distinct.filter p
    rwa [all, List.nodup_replicate] at nodup
  have atLeast : 0 < (xs.filter p).length :=
    List.length_pos_of_mem (List.mem_filter.mpr ⟨member, passes⟩)
  have one : (xs.filter p).length = 1 := by omega
  rw [all, one, List.replicate_one]

/-- A mentioned name that stands for a model of another module has one import, from that module. -/
theorem imports_of_foreign {outline : Outline} {catalog : Catalog} {type : String} {model : Model}
    (mentioned : type ∈ outline.mentionedTypes) (found : catalog.find? type = some model)
    (declared : model.builtin = false) (elsewhere : model.file ≠ outline.file) :
    (outline.imports catalog).filter (·.model == type) =
      [⟨Specifier.between outline.file model.file, type⟩] := by
  have name := Catalog.find?_name found
  have targets : (outline.importTargets catalog).filter (·.2 == type) = [(model.file, type)] := by
    refine filter_eq_singleton (outline.importTargets_nodup catalog) ?_ (beq_self_eq_true type) ?_
    · exact mem_importTargets.mpr
        ⟨type, mentioned, model, found, declared, elsewhere, by rw [name]⟩
    · intro target member same
      obtain ⟨other, _, otherModel, otherFound, _, _, rfl⟩ := mem_importTargets.mp member
      have otherName := Catalog.find?_name otherFound
      have equal : other = type := otherName.symm.trans (beq_iff_eq.mp same)
      rw [equal, found] at otherFound
      rw [← Option.some.inj otherFound, name]
  rw [imports, List.filter_map]
  exact congrArg (List.map _) targets

theorem mem_imports {outline : Outline} {catalog : Catalog} {entry : Import} :
    entry ∈ outline.imports catalog ↔
      entry.model ∈ outline.mentionedTypes ∧ ∃ model, catalog.find? entry.model = some model ∧
        model.builtin = false ∧ model.file ≠ outline.file ∧
        entry.specifier = Specifier.between outline.file model.file := by
  simp only [imports, List.mem_map, mem_importTargets]
  constructor
  · rintro ⟨_, ⟨type, mentioned, model, found, declared, elsewhere, rfl⟩, rfl⟩
    cases Catalog.find?_name found
    exact ⟨mentioned, model, found, declared, elsewhere, rfl⟩
  · rintro ⟨mentioned, model, found, declared, elsewhere, way⟩
    refine ⟨_, ⟨entry.model, mentioned, model, found, declared, elsewhere, rfl⟩, ?_⟩
    rw [← way, Catalog.find?_name found]

theorem imports_of_own {outline : Outline} {catalog : Catalog} {type : String} {model : Model}
    (found : catalog.find? type = some model) (own : model.file = outline.file) :
    (outline.imports catalog).filter (·.model == type) = [] := by
  rw [List.filter_eq_nil_iff]
  intro entry member same
  obtain ⟨_, other, otherFound, _, elsewhere, _⟩ := mem_imports.mp member
  rw [beq_iff_eq.mp same, found] at otherFound
  exact elsewhere (Option.some.inj otherFound ▸ own)

theorem imports_of_unmentioned {outline : Outline} {catalog : Catalog} {type : String}
    (unmentioned : type ∉ outline.mentionedTypes) :
    (outline.imports catalog).filter (·.model == type) = [] := by
  rw [List.filter_eq_nil_iff]
  intro entry member same
  exact unmentioned (beq_iff_eq.mp same ▸ (mem_imports.mp member).1)

end Outline

end FlowClients
