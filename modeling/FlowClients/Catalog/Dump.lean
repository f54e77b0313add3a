import FlowClients.Catalog
import FlowClients.Json

/-!
A catalog as JSON: its outlines in order, every record with its members in a fixed order.
-/

namespace FlowClients

def Field.toJson (field : Field) : Json := .record [
  ("name", .text field.name), ("type", .text field.type), ("json_name", .text field.wireName),
  ("json_type", .text field.wireType), ("is_message", .truth field.isMessage),
  ("is_repeated", .truth field.isRepeated)]

def Model.toJson (model : Model) : Json := .record [
  ("file_name", .text model.file), ("name", .text model.name), ("primitive", .truth model.builtin),
  ("fields", .array (model.fields.map Field.toJson))]

def Method.toJson (method : Method) : Json := .record [
  ("name", .text method.name), ("path", .text method.rpc), ("input_arg", .text method.argument),
  ("input_type", .text method.request), ("output_type", .text method.response)]

def Service.toJson (service : Service) : Json := .record [
  ("name", .text service.name), ("package", .text service.package),
  ("methods", .array (service.methods.map Method.toJson))]

def Outline.toJson (outline : Outline) : Json := .record [
  ("file_name", .text outline.file), ("models", .array (outline.models.map Model.toJson)),
  ("services", .array (outline.services.map Service.toJson))]

def Catalog.dump (catalog : Catalog) : String :=
  (Json.array (catalog.outlines.map Outline.toJson)).pretty

end FlowClients
