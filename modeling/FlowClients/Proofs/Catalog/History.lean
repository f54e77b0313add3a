import FlowClients.Catalog
import Mathlib.Data.List.Basic

/-!
A catalog is determined by its history. Its outlines are the sections of the history, each from the
opening of a module up to the next one, and a name stands for the model that the outlines hold last
under it. What comes before the first opening fails and leaves no trace.
-/

namespace FlowClients

namespace Catalog

namespace Step

def opens : Step → Bool
  | .openModule _ => true
  | .model _ | .service _ => false

def model? : Step → Option Model
  | .model added => some added
  | .openModule _ | .service _ => none

def service? : Step → Option Service
  | .service added => some added
  | .openModule _ | .model _ => none

theorem opening_or_registration (next : Step) :
    (∃ file, next = .openModule file) ∨ next.opens = false := by
  cases next with
  | openModule file => exact Or.inl ⟨file, rfl⟩
  | model added => exact Or.inr rfl
  | service added => exact Or.inr rfl

end Step

/-- The modules that a history opens, each with the steps from there up to the next opening. -/
def sections : List Step → List (String × List Step)
  | [] => []
  | .openModule file :: rest => (file, rest.takeWhile (!·.opens)) :: sections rest
  | .model _ :: rest | .service _ :: rest => sections rest

/-- What a module holds after the steps of its section. -/
def sectionOutline (file : String) (added : List Step) : Outline :=
  ⟨file, added.filterMap Step.model?, added.filterMap Step.service?⟩

/-- An outline with what some steps add to it. -/
def extend (outline : Outline) (added : List Step) : Outline where
  file := outline.file
  models := outline.models ++ added.filterMap Step.model?
  services := outline.services ++ added.filterMap Step.service?

/-- All models of the outlines, in their order. -/
def models (catalog : Catalog) : List Model := catalog.outlines.flatMap (·.models)

/-- The model that the outlines hold last under a name. -/
def latest? (catalog : Catalog) (name : String) : Option Model :=
  (catalog.models.filter (·.name == name)).getLast?

/-- Known are the models of the outlines, the latest first, and behind them the type of timestamps.
-/
def Agrees (catalog : Catalog) : Prop :=
  catalog.known = catalog.models.reverse ++ [Model.timestamp]

/-! ### One step -/

theorem updateLast_concat (front : List Outline) (current : Outline) (known : List Model)
    (change : Outline → Outline) :
    (Catalog.mk (front ++ [current]) known).updateLast change =
      .ok ⟨front ++ [change current], known⟩ := by
  simp [updateLast]

/-- What is registered belongs to the module opened last. -/
theorem apply_registration {next : Step} (registers : next.opens = false) (front : List Outline)
    (current : Outline) (known : List Model) :
    (Catalog.mk (front ++ [current]) known).apply next =
      .ok ⟨front ++ [extend current [next]], next.model?.toList ++ known⟩ := by
  cases next with
  | openModule file => cases registers
  | model added =>
    rw [apply, addModel, updateLast_concat]
    simp [extend, Step.model?, Step.service?, bind, Except.bind, pure, Except.pure]
  | service added =>
    rw [apply, addService, updateLast_concat]
    simp [extend, Step.model?, Step.service?]

theorem apply_unopened {next : Step} (registers : next.opens = false) (known : List Model) :
    (Catalog.mk [] known).apply next = .error .noModuleOpen := by
  cases next with
  | openModule file => cases registers
  | model added => rfl
  | service added => rfl

/-- Only a registration fails, and only as long as no module is open. -/
theorem apply_eq_error {catalog : Catalog} {next : Step} {error : CatalogError} :
    catalog.apply next = .error error ↔ next.opens = false ∧ catalog.outlines = [] := by
  obtain ⟨outlines, known⟩ := catalog
  rcases next.opening_or_registration with ⟨file, rfl⟩ | registers
  · simp [apply, Step.opens]
  · rcases List.eq_nil_or_concat' outlines with rfl | ⟨front, current, rfl⟩
    · cases error
      simp [apply_unopened registers, registers]
    · simp [apply_registration registers]

theorem step_registration {next : Step} (registers : next.opens = false) (front : List Outline)
    (current : Outline) (known : List Model) :
    (Catalog.mk (front ++ [current]) known).step next =
      ⟨front ++ [extend current [next]], next.model?.toList ++ known⟩ := by
  rw [step, apply_registration registers]

theorem step_of_error {catalog : Catalog} {next : Step} {error : CatalogError}
    (failed : catalog.apply next = .error error) : catalog.step next = catalog := by
  rw [step, failed]

theorem empty_agrees : empty.Agrees := rfl

theorem Agrees.step {catalog : Catalog} (agrees : catalog.Agrees) (next : Step) :
    (catalog.step next).Agrees := by
  obtain ⟨outlines, known⟩ := catalog
  rcases next.opening_or_registration with ⟨file, rfl⟩ | registers
  · simpa [Agrees, models, Catalog.step, apply, openModule] using agrees
  · rcases List.eq_nil_or_concat' outlines with rfl | ⟨front, current, rfl⟩
    · rwa [step_of_error (apply_unopened registers known)]
    · rw [step_registration registers]
      simp only [Agrees, models, List.flatMap_append, List.flatMap_cons, List.flatMap_nil,
        List.append_nil] at agrees ⊢
      rw [agrees]
      cases kind : next.model? <;> simp [extend, kind]

/-! ### A whole history -/

theorem steps_cons (catalog : Catalog) (next : Step) (rest : List Step) :
    catalog.steps (next :: rest) = (catalog.step next).steps rest := rfl

theorem steps_concat (catalog : Catalog) (history : List Step) (next : Step) :
    catalog.steps (history ++ [next]) = (catalog.steps history).step next := by
  simp only [steps, List.foldl_append, List.foldl_cons, List.foldl_nil]

theorem Agrees.steps {catalog : Catalog} (agrees : catalog.Agrees) (history : List Step) :
    (catalog.steps history).Agrees := by
  induction history generalizing catalog with
  | nil => exact agrees
  | cons next rest ih => exact ih (agrees.step next)

theorem Agrees.find?_eq {catalog : Catalog} (agrees : catalog.Agrees) (name : String) :
    catalog.find? name =
      (catalog.latest? name).or (if name = timestampType then some Model.timestamp else none) := by
  rw [find?, agrees, List.find?_append, latest?, List.getLast?_filter]
  congr 1
  simp only [List.find?_cons, List.find?_nil, Model.timestamp]
  split <;> split <;> simp_all

theorem mem_models {catalog : Catalog} {outline : Outline} {model : Model}
    (member : outline ∈ catalog.outlines) (declared : model ∈ outline.models) :
    model ∈ catalog.models :=
  List.mem_flatMap.mpr ⟨outline, member, declared⟩

theorem mem_of_latest? {catalog : Catalog} {name : String} {model : Model}
    (latest : catalog.latest? name = some model) : model ∈ catalog.models ∧ model.name = name := by
  obtain ⟨member, named⟩ := List.mem_filter.mp (List.mem_of_getLast? latest)
  exact ⟨member, beq_iff_eq.mp named⟩

/-- The name of a model leads to a model of the outlines, if not to the same one. -/
theorem Agrees.find?_of_mem {catalog : Catalog} {model : Model} (agrees : catalog.Agrees)
    (member : model ∈ catalog.models) :
    ∃ last ∈ catalog.models, catalog.latest? model.name = some last ∧
      catalog.find? model.name = some last := by
  have listed : model ∈ catalog.models.filter (·.name == model.name) :=
    List.mem_filter.mpr ⟨member, beq_self_eq_true _⟩
  obtain ⟨last, latest⟩ : ∃ last, catalog.latest? model.name = some last :=
    Option.isSome_iff_exists.mp (List.getLast?_isSome.mpr (List.ne_nil_of_mem listed))
  refine ⟨last, (List.mem_filter.mp (List.mem_of_getLast? latest)).1, latest, ?_⟩
  rw [agrees.find?_eq, latest, Option.some_or]

/-- What a name stands for is a model of the outlines, unless the language has it. -/
theorem Agrees.mem_of_find? {catalog : Catalog} {name : String} {model : Model}
    (agrees : catalog.Agrees) (found : catalog.find? name = some model)
    (declared : model.builtin = false) : model ∈ catalog.models := by
  have known := List.mem_of_find?_eq_some found
  rw [agrees, List.mem_append, List.mem_reverse, List.mem_singleton] at known
  rcases known with inOutlines | rfl
  · exact inOutlines
  · cases declared

theorem extend_nil (outline : Outline) : extend outline [] = outline := by
  simp [extend]

theorem extend_extend (outline : Outline) (first later : List Step) :
    extend (extend outline first) later = extend outline (first ++ later) := by
  simp [extend]

theorem extend_opened (file : String) (added : List Step) :
    extend ⟨file, [], []⟩ added = sectionOutline file added := by
  simp [extend, sectionOutline]

theorem sections_registration {next : Step} (registers : next.opens = false)
    (rest : List Step) : sections (next :: rest) = sections rest := by
  cases next with
  | openModule file => cases registers
  | model added => rfl
  | service added => rfl

/-- With a module open, steps complete it before they open others. -/
theorem steps_outlines_of_open (history : List Step) (front : List Outline) (current : Outline)
    (known : List Model) :
    ((Catalog.mk (front ++ [current]) known).steps history).outlines =
      front ++ extend current (history.takeWhile (!·.opens)) ::
        (sections history).map fun (file, added) => sectionOutline file added := by
  induction history generalizing front current known with
  | nil => simp [steps, sections, extend_nil]
  | cons next rest ih =>
    rcases next.opening_or_registration with ⟨file, rfl⟩ | registers
    · have opened : (Catalog.mk (front ++ [current]) known).step (.openModule file) =
          ⟨(front ++ [current]) ++ [⟨file, [], []⟩], known⟩ := rfl
      rw [steps_cons, opened, ih, extend_opened, List.takeWhile_cons_of_neg (by simp [Step.opens]),
        extend_nil]
      simp only [sections, List.map_cons, List.append_assoc, List.singleton_append]
    · rw [steps_cons, step_registration registers, ih, extend_extend,
        List.takeWhile_cons_of_pos (by simp [registers]), sections_registration registers]
      rfl

/-- The outlines are the sections of the history. -/
theorem steps_outlines (history : List Step) (known : List Model) :
    ((Catalog.mk [] known).steps history).outlines =
      (sections history).map fun (file, added) => sectionOutline file added := by
  induction history with
  | nil => rfl
  | cons next rest ih =>
    rw [steps_cons]
    rcases next.opening_or_registration with ⟨file, rfl⟩ | registers
    · have run := steps_outlines_of_open rest [] ⟨file, [], []⟩ known
      rwa [extend_opened] at run
    · rw [step_of_error (apply_unopened registers known), sections_registration registers, ih]

theorem sections_eq_nil {history : List Step} :
    sections history = [] ↔ ∀ step ∈ history, step.opens = false := by
  induction history with
  | nil => simp [sections]
  | cons next rest ih =>
    rcases next.opening_or_registration with ⟨file, rfl⟩ | registers
    · simp [sections, Step.opens]
    · simp [sections_registration registers, registers, ih]

/-- What steps register before the next opening and in the sections after it is all they register. -/
theorem takeWhile_append_sections {β : Type} {pick : Step → Option β}
    (skips : ∀ file, pick (.openModule file) = none) (history : List Step) :
    (history.takeWhile (!·.opens)).filterMap pick ++
      (sections history).flatMap (fun (_, added) => added.filterMap pick) =
      history.filterMap pick := by
  induction history with
  | nil => rfl
  | cons next rest ih =>
    rcases next.opening_or_registration with ⟨file, rfl⟩ | registers
    · rw [List.takeWhile_cons_of_neg (by simp [Step.opens]), List.filterMap_nil, List.nil_append,
        sections, List.flatMap_cons, ih, List.filterMap_cons_none (skips file)]
    · rw [List.takeWhile_cons_of_pos (by simp [registers]), sections_registration registers]
      cases kind : pick next with
      | none => rw [List.filterMap_cons_none kind, List.filterMap_cons_none kind, ih]
      | some added =>
        rw [List.filterMap_cons_some kind, List.filterMap_cons_some kind, List.cons_append, ih]

/-- The sections hold all that is registered from the first opening on, each thing once. -/
theorem sections_flatMap {β : Type} {pick : Step → Option β}
    (skips : ∀ file, pick (.openModule file) = none) (history : List Step) :
    (sections history).flatMap (fun (_, added) => added.filterMap pick) =
      (history.dropWhile (!·.opens)).filterMap pick := by
  induction history with
  | nil => rfl
  | cons next rest ih =>
    rcases next.opening_or_registration with ⟨file, rfl⟩ | registers
    · rw [List.dropWhile_cons_of_neg (by simp [Step.opens]), sections, List.flatMap_cons,
        takeWhile_append_sections skips, List.filterMap_cons_none (skips file)]
    · rw [List.dropWhile_cons_of_pos (by simp [registers]), sections_registration registers, ih]

theorem find?_name {catalog : Catalog} {name : String} {model : Model}
    (found : catalog.find? name = some model) : model.name = name := by
  simpa only [beq_iff_eq] using List.find?_some found

end Catalog

/-- After any history, successful and failing steps mixed: a registration fails exactly if no module
has been opened, and then nothing changes; the outlines are the sections of the history, in which
whatever was registered since the first opening stands once and in order; and a name stands for the
model that the outlines hold last under it, and where they hold none, only the name of the type of
timestamps stands for anything. -/
theorem Catalog.determined_by_history (history : List Step) :
    (∀ next, (empty.steps history).apply next = .error .noModuleOpen ↔
      next.opens = false ∧ ∀ step ∈ history, step.opens = false) ∧
    (∀ next error, (empty.steps history).apply next = .error error →
      empty.steps (history ++ [next]) = empty.steps history) ∧
    (empty.steps history).outlines =
      (sections history).map (fun (file, added) => sectionOutline file added) ∧
    (empty.steps history).models =
      (history.dropWhile (!·.opens)).filterMap Step.model? ∧
    (empty.steps history).outlines.flatMap (·.services) =
      (history.dropWhile (!·.opens)).filterMap Step.service? ∧
    ∀ name, (empty.steps history).find? name =
        ((empty.steps history).latest? name).or
          (if name = timestampType then some Model.timestamp else none) ∧
      ∀ model, (empty.steps history).find? name = some model → model.name = name := by
  have outlines : (empty.steps history).outlines = _ := steps_outlines history _
  have agrees : (empty.steps history).Agrees := empty_agrees.steps history
  refine ⟨fun next => ?_, fun next error failed => ?_, outlines, ?_, ?_, fun name => ⟨?_, ?_⟩⟩
  · rw [apply_eq_error, outlines, List.map_eq_nil_iff, sections_eq_nil]
  · rw [steps_concat, step_of_error failed]
  · rw [models, outlines, List.flatMap_map]
    exact sections_flatMap (fun _ => rfl) history
  · rw [outlines, List.flatMap_map]
    exact sections_flatMap (fun _ => rfl) history
  · exact agrees.find?_eq name
  · exact fun model => find?_name

def Model.bare (file name : String) : Model := ⟨file, name, false, []⟩

/-- A registration too early, a module opened twice, a model registered twice and one that takes the
name of timestamps. -/
def mixedHistory : List Catalog.Step :=
  [.model (.bare "a.js" "Early"), .openModule "a.js", .model (.bare "a.js" "Hat"),
    .openModule "a.js", .service ⟨"Shop", "hats", []⟩, .model (.bare "b.js" "Hat"),
    .model (.bare "a.js" "Date")]

theorem Catalog.determined_by_mixed_history :
    empty.steps [.model (.bare "a.js" "Early")] = empty ∧
      (empty.steps mixedHistory).outlines =
        [⟨"a.js", [.bare "a.js" "Hat"], []⟩,
          ⟨"a.js", [.bare "b.js" "Hat", .bare "a.js" "Date"], [⟨"Shop", "hats", []⟩]⟩] ∧
      (empty.steps mixedHistory).find? "Hat" = some (.bare "b.js" "Hat") ∧
      (empty.steps mixedHistory).find? "Date" = some (.bare "a.js" "Date") ∧
      (empty.steps mixedHistory).find? "Early" = none := by
  obtain ⟨_, unchanged, _⟩ := determined_by_history []
  obtain ⟨_, _, outlines, _, _, found⟩ := determined_by_history mixedHistory
  refine ⟨unchanged _ .noModuleOpen rfl, outlines.trans rfl, (found "Hat").1.trans ?_,
    (found "Date").1.trans ?_, (found "Early").1.trans ?_⟩
  · decide
  · decide
  · decide

end FlowClients
