import FlowClients.Proofs.ReferenceResolution

/-!
Imports under names that a module declares itself. A mentioned name leads to the model that the
catalog holds last under it, so a module imports a model of its own name exactly if it mentions that
name and another module declares it later.
-/

namespace FlowClients

/-- In every module made from accepted files, a name that the module declares is imported exactly if
the module mentions it and the last model of that name is declared in another module. The one entry
then brings that other model under the name of the module's own. -/
theorem imports_of_own_name {files : List FileDescriptor} {schema : Schema}
    (accepted : Schema.ofFiles files = .ok schema) :
    ∃ catalog, Catalog.ofFiles files = .ok catalog ∧
      catalog.outlines = schema.clientFiles.map Schema.File.outline ∧
      ∀ outline ∈ catalog.outlines, ∀ model ∈ outline.models, ∃ last,
        catalog.latest? model.name = some last ∧
        (outline.imports catalog).filter (·.model == model.name) =
          if model.name ∈ outline.mentionedTypes ∧ last.file ≠ outline.file then
            [⟨Specifier.between outline.file last.file, model.name⟩]
          else [] := by
  refine ⟨schema.extracted, Catalog.ofFiles_eq_ok accepted, rfl, ?_⟩
  intro outline member model declared
  obtain ⟨last, lastMember, latest, found⟩ :=
    schema.extracted_agrees.find?_of_mem (Catalog.mem_models member declared)
  refine ⟨last, latest, ?_⟩
  by_cases mentioned : model.name ∈ outline.mentionedTypes
  · by_cases own : last.file = outline.file
    · rw [if_neg fun both => both.2 own]
      exact Outline.imports_of_own found own
    · rw [if_pos ⟨mentioned, own⟩]
      exact Outline.imports_of_foreign mentioned found (Schema.builtin_of_mem lastMember) own
  · rw [if_neg fun both => mentioned both.1]
    exact Outline.imports_of_unmentioned mentioned

/-- Two files declare a message of the same name; the first refers to its own. -/
def twinFiles : List FileDescriptor :=
  [.plain "a.proto" "a" [] [.plain "Node" [.referring "next" 1 ".a.Node"] []] [],
    .plain "b.proto" "b" [] [.plain "Node" [] []] []]

def linkedFile : Schema.File :=
  ⟨"a.proto", "a", [⟨"Node", [⟨"next", 1, false, .message "a.Node"⟩]⟩], []⟩

def emptyFile : Schema.File := ⟨"b.proto", "b", [⟨"Node", []⟩], []⟩

theorem twinFiles_accepted : Schema.ofFiles twinFiles = .ok ⟨[linkedFile, emptyFile]⟩ := rfl

theorem imports_of_own_name_twin :
    ∃ catalog, Catalog.ofFiles twinFiles = .ok catalog ∧
      (linkedFile.outline.imports catalog).filter (·.model == "Node") = [⟨"./b", "Node"⟩] ∧
      (emptyFile.outline.imports catalog).filter (·.model == "Node") = [] := by
  obtain ⟨catalog, run, _, own⟩ := imports_of_own_name twinFiles_accepted
  cases run.symm.trans (Catalog.ofFiles_eq_ok twinFiles_accepted)
  obtain ⟨last, latest, linked⟩ := own linkedFile.outline (by decide) _ List.mem_cons_self
  obtain ⟨other, otherLatest, empty⟩ := own emptyFile.outline (by decide) _ List.mem_cons_self
  cases latest
  cases otherLatest
  exact ⟨_, run, linked, empty⟩

/-- The module of the first file declares a model and imports another one of the same name. -/
theorem twin_declared_and_imported :
    ∃ catalog, Catalog.ofFiles twinFiles = .ok catalog ∧ ∃ outline ∈ catalog.outlines,
      ∃ model ∈ outline.models, ∃ entry ∈ outline.imports catalog, entry.model = model.name := by
  refine ⟨_, rfl, linkedFile.outline, ?_, _, List.mem_cons_self, ⟨"./b", "Node"⟩, ?_, rfl⟩
  · decide
  · decide

end FlowClients
