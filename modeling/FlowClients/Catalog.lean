import FlowClients.Outline

/-!
The catalog of a run: outlines in the order in which their modules were opened, and for every simple
name the model added last under it. The type of timestamps is known from the start.
-/

namespace FlowClients

structure Catalog where
  outlines : List Outline
  /-- Every model added, the latest first. -/
  known : List Model
deriving DecidableEq

inductive CatalogError
  | noModuleOpen
deriving DecidableEq

def CatalogError.message : CatalogError → String
  | .noModuleOpen => "registration before any file was begun"

namespace Catalog

def empty : Catalog := ⟨[], [Model.timestamp]⟩

/-- The model that a simple name stands for. -/
def find? (catalog : Catalog) (name : String) : Option Model :=
  catalog.known.find? (·.name == name)

def openModule (catalog : Catalog) (file : String) : Catalog :=
  { catalog with outlines := catalog.outlines ++ [⟨file, [], []⟩] }

/-- Change the outline opened last. -/
def updateLast (catalog : Catalog) (change : Outline → Outline) : Except CatalogError Catalog :=
  match catalog.outlines.getLast? with
  | none => .error .noModuleOpen
  | some current => .ok { catalog with outlines := catalog.outlines.dropLast ++ [change current] }

def addModel (catalog : Catalog) (model : Model) : Except CatalogError Catalog := do
  let catalog ← catalog.updateLast fun current =>
    { current with models := current.models ++ [model] }
  return { catalog with known := model :: catalog.known }

def addService (catalog : Catalog) (service : Service) : Except CatalogError Catalog :=
  catalog.updateLast fun current => { current with services := current.services ++ [service] }

/-- One operation on a catalog. -/
inductive Step
  | openModule (file : String)
  | model (model : Model)
  | service (service : Service)
deriving DecidableEq

def apply (catalog : Catalog) : Step → Except CatalogError Catalog
  | .openModule file => .ok (catalog.openModule file)
  | .model model => catalog.addModel model
  | .service service => catalog.addService service

/-- Take a step; one that fails changes nothing. -/
def step (catalog : Catalog) (next : Step) : Catalog :=
  match catalog.apply next with
  | .ok changed => changed
  | .error _ => catalog

/-- Take the steps of a history. -/
def steps (catalog : Catalog) (history : List Step) : Catalog := history.foldl step catalog

end Catalog

end FlowClients
