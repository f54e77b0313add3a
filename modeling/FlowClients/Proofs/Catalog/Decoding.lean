import FlowClients.Catalog.Dump
import FlowClients.Proofs.Json.Printing

/-!
Reading dumps back. A record is read by the names of its members, in whatever order they stand: each
name that is wanted has to occur exactly once, and members with other names are passed over. A dump
is read as the outlines that were dumped and as no others.
-/

namespace FlowClients

variable {α : Type}

/-! ### Reading values -/

namespace Json

def text? : Json → Option String
  | .text value => some value
  | _ => none

def truth? : Json → Option Bool
  | .truth value => some value
  | _ => none

def list? (item : Json → Option α) : Json → Option (List α)
  | .array elements => elements.mapM item
  | _ => none

/-- The value of the one member with the key. -/
def member? (key : String) : Json → Option Json
  | .record members =>
    match members.filter (·.1 == key) with
    | [(_, value)] => some value
    | _ => none
  | _ => none

theorem list?_array {item : Json → Option α} {toJson : α → Json}
    (readBack : ∀ a, item (toJson a) = some a) (list : List α) :
    (array (list.map toJson)).list? item = some list := by
  rw [list?]
  induction list with
  | nil => rfl
  | cons first rest ih =>
    rw [List.map_cons, List.mapM_cons, readBack, ih]
    rfl

end Json

/-! ### Reading records -/

def Field.ofJson? (json : Json) : Option Field := do
  return {
    name := ← (← json.member? "name").text?
    type := ← (← json.member? "type").text?
    wireName := ← (← json.member? "json_name").text?
    wireType := ← (← json.member? "json_type").text?
    isMessage := ← (← json.member? "is_message").truth?
    isRepeated := ← (← json.member? "is_repeated").truth? }

def Model.ofJson? (json : Json) : Option Model := do
  return {
    file := ← (← json.member? "file_name").text?
    name := ← (← json.member? "name").text?
    builtin := ← (← json.member? "primitive").truth?
    fields := ← (← json.member? "fields").list? Field.ofJson? }

def Method.ofJson? (json : Json) : Option Method := do
  return {
    name := ← (← json.member? "name").text?
    rpc := ← (← json.member? "path").text?
    argument := ← (← json.member? "input_arg").text?
    request := ← (← json.member? "input_type").text?
    response := ← (← json.member? "output_type").text? }

def Service.ofJson? (json : Json) : Option Service := do
  return {
    name := ← (← json.member? "name").text?
    package := ← (← json.member? "package").text?
    methods := ← (← json.member? "methods").list? Method.ofJson? }

def Outline.ofJson? (json : Json) : Option Outline := do
  return {
    file := ← (← json.member? "file_name").text?
    models := ← (← json.member? "models").list? Model.ofJson?
    services := ← (← json.member? "services").list? Service.ofJson? }

theorem Field.ofJson?_toJson (field : Field) : ofJson? field.toJson = some field := by
  simp [ofJson?, toJson, Json.member?, Json.text?, Json.truth?]

theorem Model.ofJson?_toJson (model : Model) : ofJson? model.toJson = some model := by
  have fields := Json.list?_array Field.ofJson?_toJson model.fields
  simp [ofJson?, toJson, Json.member?, Json.text?, Json.truth?, fields]

theorem Method.ofJson?_toJson (method : Method) : ofJson? method.toJson = some method := by
  simp [ofJson?, toJson, Json.member?, Json.text?]

theorem Service.ofJson?_toJson (service : Service) : ofJson? service.toJson = some service := by
  have methods := Json.list?_array Method.ofJson?_toJson service.methods
  simp [ofJson?, toJson, Json.member?, Json.text?, methods]

theorem Outline.ofJson?_toJson (outline : Outline) : ofJson? outline.toJson = some outline := by
  have models := Json.list?_array Model.ofJson?_toJson outline.models
  have services := Json.list?_array Service.ofJson?_toJson outline.services
  simp [ofJson?, toJson, Json.member?, Json.text?, models, services]

/-! ### Reading dumps -/

/-- The text is JSON that lists the outlines. -/
def Decodes (text : String) (outlines : List Outline) : Prop :=
  ∃ json, Json.Denotes text json ∧ json.list? Outline.ofJson? = some outlines

namespace Catalog

theorem dump_denotes (catalog : Catalog) :
    Json.Denotes catalog.dump (.array (catalog.outlines.map Outline.toJson)) :=
  Json.denotes_pretty _

theorem decodes_dump_iff (catalog : Catalog) {outlines : List Outline} :
    Decodes catalog.dump outlines ↔ outlines = catalog.outlines := by
  have readBack := Json.list?_array Outline.ofJson?_toJson catalog.outlines
  constructor
  · rintro ⟨json, denotes, read⟩
    cases denotes.unique catalog.dump_denotes
    exact Option.some.inj (read.symm.trans readBack)
  · rintro rfl
    exact ⟨_, catalog.dump_denotes, readBack⟩

/-- A dump tells the outlines, and nothing else about a catalog. -/
theorem dump_eq_iff {catalog other : Catalog} :
    catalog.dump = other.dump ↔ catalog.outlines = other.outlines := by
  constructor
  · intro same
    have decodes := catalog.decodes_dump_iff.mpr rfl
    rw [same] at decodes
    exact other.decodes_dump_iff.mp decodes
  · intro same
    rw [dump, dump, same]

end Catalog

/-- After any history, whatever characters its names, types, packages and paths have, the dump is
JSON for exactly one value, that value lists the outlines and nothing else, and the dump after
another history is the same only if that history leads to the same outlines. -/
theorem dump_of_history (history : List Catalog.Step) :
    let catalog := Catalog.empty.steps history
    (∃! json, Json.Denotes catalog.dump json) ∧
    (∀ outlines, Decodes catalog.dump outlines ↔ outlines = catalog.outlines) ∧
    ∀ other, (Catalog.empty.steps other).dump = catalog.dump ↔
      (Catalog.empty.steps other).outlines = catalog.outlines := by
  intro catalog
  refine ⟨?_, fun _ => catalog.decodes_dump_iff, fun _ => Catalog.dump_eq_iff⟩
  exact ⟨_, catalog.dump_denotes, fun _ denotes => denotes.unique catalog.dump_denotes⟩

end FlowClients
