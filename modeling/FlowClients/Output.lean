import FlowClients.ClientModule.Template

/-!
The generated files: a client module for every outline of a catalog, then the transport module.
-/

namespace FlowClients

def Outline.output (outline : Outline) (version : Version) (catalog : Catalog) : OutputFile :=
  ⟨outline.file, (outline.clientModule version catalog).text⟩

def Catalog.output (catalog : Catalog) (version : Version) : List OutputFile :=
  catalog.outlines.map (·.output version catalog) ++ [transportModule]

end FlowClients
