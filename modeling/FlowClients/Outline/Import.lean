import FlowClients.Catalog
import FlowClients.Sorted
import FlowClients.Specifier

/-!
The models that a module has to import: those that its fields and methods mention and that the
catalog places in another module. They come in increasing order of file and name, each once.
-/

namespace FlowClients

structure Import where
  specifier : String
  model : String
deriving DecidableEq

namespace Outline

/-- Every type that a field or a method of the module mentions. -/
def mentionedTypes (outline : Outline) : List String :=
  outline.models.flatMap (fun model => model.fields.map Field.singleType) ++
    outline.services.flatMap fun service =>
      service.methods.flatMap fun method => [method.request, method.response]

/-- The file and name under which a type is declared, if that is in another module. -/
def foreign? (outline : Outline) (catalog : Catalog) (type : String) :
    Option (String × String) := do
  let model ← catalog.find? type
  guard (!model.builtin && model.file != outline.file)
  return (model.file, model.name)

def importBelow (a b : String × String) : Bool := a.1 < b.1 || (a.1 == b.1 && a.2 < b.2)

/-- The files and names of all imported models. -/
def importTargets (outline : Outline) (catalog : Catalog) : List (String × String) :=
  (outline.mentionedTypes.filterMap (outline.foreign? catalog)).foldr (insertSorted importBelow) []

def imports (outline : Outline) (catalog : Catalog) : List Import :=
  (outline.importTargets catalog).map fun (file, name) =>
    ⟨Specifier.between outline.file file, name⟩

end Outline

end FlowClients
