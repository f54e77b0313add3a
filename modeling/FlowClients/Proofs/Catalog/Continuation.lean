import FlowClients.Proofs.FileOrder
import FlowClients.Proofs.ImportList

/-!
What a history that goes on leaves alone. Once another module is opened, no earlier one is completed
any further, and a name under which no model is registered keeps its meaning. So a module that
mentions such names only is rendered as before.
-/

namespace FlowClients

namespace Catalog

/-- A step changes what a name stands for only if it registers a model under it. -/
theorem find?_step {catalog : Catalog} {next : Step} {name : String}
    (apart : ∀ model ∈ next.model?, model.name ≠ name) :
    (catalog.step next).find? name = catalog.find? name := by
  obtain ⟨outlines, known⟩ := catalog
  rcases next.opening_or_registration with ⟨file, rfl⟩ | registers
  · rfl
  · rcases List.eq_nil_or_concat' outlines with rfl | ⟨front, current, rfl⟩
    · rw [step_of_error (apply_unopened registers known)]
    · have passed : next.model?.toList.find? (·.name == name) = none := by simpa using apart
      rw [step_registration registers, find?, List.find?_append, passed, Option.none_or]
      rfl

theorem find?_steps {catalog : Catalog} {later : List Step} {name : String}
    (apart : ∀ model ∈ later.filterMap Step.model?, model.name ≠ name) :
    (catalog.steps later).find? name = catalog.find? name := by
  induction later generalizing catalog with
  | nil => rfl
  | cons next rest ih =>
    have first : ∀ model ∈ next.model?, model.name ≠ name := fun model registered =>
      apart model (List.mem_filterMap.mpr ⟨next, List.mem_cons_self, registered⟩)
    have others : ∀ model ∈ rest.filterMap Step.model?, model.name ≠ name := by
      intro model registered
      obtain ⟨step, member, picked⟩ := List.mem_filterMap.mp registered
      exact apart model (List.mem_filterMap.mpr ⟨step, List.mem_cons_of_mem next member, picked⟩)
    rw [steps_cons, ih others, find?_step first]

/-- Once another module is opened, the outlines that are there stay as they are. -/
theorem outlines_prefix_of_opening (catalog : Catalog) (file : String) (later : List Step) :
    catalog.outlines <+: (catalog.steps (.openModule file :: later)).outlines :=
  ⟨_, (steps_outlines_of_open later catalog.outlines ⟨file, [], []⟩ catalog.known).symm⟩

end Catalog

/-- After any history, let it go on in any way that first opens another module and never registers a
model under a name that a certain earlier module mentions. That module then keeps its place and all
it lists, and for either version its text is the same as before. The models that come later may well
have the names of the models that the module declares. -/
theorem output_of_continued_history (history later : List Catalog.Step) (file : String)
    {place : Nat} {outline : Outline}
    (listed : (Catalog.empty.steps history).outlines[place]? = some outline)
    (apart : ∀ model ∈ later.filterMap Catalog.Step.model?, ¬ outline.Mentions model.name) :
    let catalog := Catalog.empty.steps history
    let continued := Catalog.empty.steps (history ++ .openModule file :: later)
    continued.outlines[place]? = some outline ∧
      ∀ version, outline.output version continued = outline.output version catalog := by
  intro catalog continued
  have goesOn : continued = catalog.steps (.openModule file :: later) := List.foldl_append
  rw [goesOn]
  refine ⟨?_, fun version => ?_⟩
  · obtain ⟨within, same⟩ := List.getElem?_eq_some_iff.mp listed
    rw [List.prefix_iff_getElem?.mp (catalog.outlines_prefix_of_opening file later) place within,
      same]
  · refine Outline.output_congr version fun type mentioned => Catalog.find?_steps ?_
    intro model registered named
    rw [Outline.mem_mentionedTypes, ← named] at mentioned
    exact apart model registered mentioned

/-- A module with a field and a method whose types stand in the next module. -/
def lampOutline : Outline :=
  ⟨"lamp.js", [⟨"lamp.js", "Lamp", false, [.single "bulb" "Bulb"]⟩],
    [⟨"Workshop", "lamps", [⟨"fit", "Fit", "bulb", "Bulb", "Socket"⟩]⟩]⟩

def lampHistory : List Catalog.Step :=
  lampOutline.models.map .model ++ .openModule "lamp.js" :: lampOutline.models.map .model ++
    lampOutline.services.map .service ++
    [.openModule "parts/bulb.js", .model (.bare "parts/bulb.js" "Bulb")]

/-- The first module is opened again, and its own name and that of timestamps are taken. -/
def laterLamps : List Catalog.Step :=
  [.model (.bare "lamp.js" "Lamp"), .service ⟨"Workshop", "lamps", []⟩, .openModule "date.js",
    .model (.bare "date.js" "Date")]

theorem output_of_continued_lamps :
    let continued := Catalog.empty.steps (lampHistory ++ .openModule "lamp.js" :: laterLamps)
    continued.outlines[0]? = some lampOutline ∧
      (lampOutline.output .v6 continued).text =
        (lampOutline.output .v6 (Catalog.empty.steps lampHistory)).text := by
  have listed : (Catalog.empty.steps lampHistory).outlines[0]? = some lampOutline := by decide
  have apart : ∀ model ∈ laterLamps.filterMap Catalog.Step.model?,
      ¬ lampOutline.Mentions model.name := by
    simp only [← Outline.mem_mentionedTypes]
    decide
  obtain ⟨kept, unchanged⟩ :=
    output_of_continued_history lampHistory laterLamps "lamp.js" listed apart
  exact ⟨kept, congrArg OutputFile.text (unchanged .v6)⟩

end FlowClients
