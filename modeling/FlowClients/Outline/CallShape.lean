import FlowClients.Catalog

/-!
The shape of a call: it takes an argument unless the request model has no fields, and has a result
unless the response model has none. A type that the catalog does not know counts as one with fields.
-/

namespace FlowClients

structure CallShape where
  takesArgument : Bool
  hasResult : Bool
deriving DecidableEq

/-- Whether a type is known to have no fields. -/
def Catalog.isEmptyModel (catalog : Catalog) (type : String) : Bool :=
  (catalog.find? type).any (·.fields.isEmpty)

def Method.shape (method : Method) (catalog : Catalog) : CallShape :=
  ⟨!catalog.isEmptyModel method.request, !catalog.isEmptyModel method.response⟩

end FlowClients
