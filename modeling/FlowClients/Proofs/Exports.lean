import FlowClients.Output
import FlowClients.Proofs.ClosedModule
import FlowClients.Proofs.ModuleText

/-!
Where the imports of a module lead. The target of every import is another module of the same run,
which declares the imported model, and the text of that module exports the four names that the two
lines of the import bring in.
-/

namespace FlowClients

/-- How a line begins that declares a name and exports it. -/
def Mention.exportHead (mention : Mention) : String :=
  "export " ++ match mention with
    | .type name => "type " ++ name ++ " = \x7b"
    | .function name => "function " ++ name ++ "("

namespace ClientModule

/-- Each of the four names that come with a model begins a line of the model's text. -/
theorem modelText_exports {model : ModelDecl} {mention : Mention}
    (exported : mention ∈ model.declared) : StartsLine mention.exportHead (modelText model) := by
  rw [modelText_eq]
  simp only [ModelDecl.declared, List.mem_cons, List.not_mem_nil, or_false] at exported
  rcases exported with rfl | rfl | rfl | rfl
  · have starts : StartsLine _ (typeText model) := block_startsLine _ "" String.append_empty.symm
    exact starts.join (by simp)
  · have starts : StartsLine _ (wireTypeText model) :=
      block_startsLine _ "" String.append_empty.symm
    exact starts.join (by simp)
  · have starts : StartsLine ("export " ++ ("function " ++ serializerName model.name ++ "("))
        (serializerText model) :=
      block_startsLine _ ("m: " ++ model.name ++ "): " ++ model.wireType ++ " \x7b\n  return \x7b")
        (by rw [← String.toList_inj]; simp)
    exact starts.join (by simp)
  · have starts : StartsLine ("export " ++ ("function " ++ deserializerName model.name ++ "("))
        (deserializerText model) :=
      block_startsLine _ ("m: " ++ model.wireType ++ "): " ++ model.name ++ " \x7b\n  return \x7b")
        (by rw [← String.toList_inj]; simp)
    exact starts.join (by simp)

theorem importText_lines {entry : Import} {line : String} (member : line ∈ importLines entry) :
    StartsLine line (importText entry) := by
  have starts : StartsLine line ("\n" ++ line) := startsLine_of_eq "" "" (by simp)
  rw [importText_eq]
  exact starts.join (List.mem_map_of_mem member)

variable {module : ClientModule}

theorem text_exports {model : ModelDecl} {mention : Mention} (member : model ∈ module.models)
    (exported : mention ∈ model.declared) : StartsLine mention.exportHead module.text := by
  have starts := (modelText_exports exported).join (List.mem_map_of_mem member)
  rw [text_eq]
  exact starts.join (by simp)

theorem text_imports {entry : Import} {line : String} (member : entry ∈ module.imports)
    (within : line ∈ importLines entry) : StartsLine line module.text := by
  have starts := (importText_lines within).join (List.mem_map_of_mem member)
  rw [text_eq]
  exact starts.join (by simp)

end ClientModule

/-- What is imported comes from the module of a file of the same schema. -/
theorem Schema.import_origin {schema : Schema} {outline : Outline} {entry : Import}
    (member : entry ∈ outline.imports schema.extracted) :
    ∃ file ∈ schema.clientFiles, ∃ message ∈ file.messages, message.name = entry.model ∧
      moduleFile file.name ≠ outline.file ∧
      entry.specifier = Specifier.between outline.file (moduleFile file.name) := by
  obtain ⟨_, model, found, declared, elsewhere, way⟩ := Outline.mem_imports.mp member
  have known := schema.extracted_agrees.mem_of_find? found declared
  rw [models_extracted] at known
  obtain ⟨file, fileMember, message, messageMember, rfl⟩ := mem_modelsOf.mp known
  exact ⟨file, fileMember, message, messageMember, Catalog.find?_name found, elsewhere, way⟩

/-- Every import of a module that is generated from accepted files stands in its text and leads to
another module, which declares the model and exports the four names. No two modules need have
different names for this, and no two models. -/
theorem imports_lead_to_exports {files : List FileDescriptor} {schema : Schema}
    (accepted : Schema.ofFiles files = .ok schema) (version : Version) :
    ∃ catalog, Catalog.ofFiles files = .ok catalog ∧
      ∀ outline ∈ catalog.outlines, ∀ entry ∈ (outline.clientModule version catalog).imports,
        (∀ line ∈ ClientModule.importLines entry,
          StartsLine line (outline.output version catalog).text) ∧
        ∃ target ∈ catalog.outlines, target.file ≠ outline.file ∧
          entry.specifier = Specifier.between outline.file target.file ∧
          (∃ model ∈ (target.clientModule version catalog).models, model.name = entry.model) ∧
          ∀ mention ∈ modelNames entry.model,
            StartsLine mention.exportHead (target.output version catalog).text := by
  refine ⟨schema.extracted, Catalog.ofFiles_eq_ok accepted, ?_⟩
  intro outline _ entry member
  refine ⟨fun line within => ClientModule.text_imports member within, ?_⟩
  obtain ⟨file, fileMember, message, messageMember, name, elsewhere, way⟩ :=
    Schema.import_origin member
  have declared : (message.extract (moduleFile file.name)).declaration ∈
      (file.outline.clientModule version schema.extracted).models := by
    rw [Schema.clientModule_models]
    exact List.mem_map_of_mem messageMember
  refine ⟨file.outline, List.mem_map_of_mem fileMember, elsewhere, way, ⟨_, declared, name⟩, ?_⟩
  intro mention imported
  rw [← name] at imported
  exact ClientModule.text_exports declared imported

/-- A message is named like the type of timestamps, and another file refers to both. -/
def calendarFiles : List FileDescriptor :=
  [.plain "event.proto" "event" ["calendar/date.proto", timestampFile]
    [.plain "Event" [.referring "at" 1 ".google.protobuf.Timestamp",
      .referring "day" 2 ".calendar.Date"] []] [],
    .plain "calendar/date.proto" "calendar" []
      [.plain "Date" [⟨"year", 1, .optional, .int32, "", none, none, none, none⟩] []] [],
    .plain timestampFile "google.protobuf" [] [.plain "Timestamp" [] []] []]

def eventMessage : Schema.Message :=
  ⟨"Event", [⟨"at", 1, false, .message "google.protobuf.Timestamp"⟩,
    ⟨"day", 2, false, .message "calendar.Date"⟩]⟩

def eventFile : Schema.File := ⟨"event.proto", "event", [eventMessage], []⟩

def calendarSchema : Schema :=
  ⟨[eventFile,
    ⟨"calendar/date.proto", "calendar", [⟨"Date", [⟨"year", 1, false, .scalar .int32⟩]⟩], []⟩,
    ⟨timestampFile, "google.protobuf", [⟨"Timestamp", []⟩], []⟩]⟩

theorem calendarFiles_accepted : Schema.ofFiles calendarFiles = .ok calendarSchema := by rfl

theorem imports_lead_to_exports_calendar :
    ∃ catalog, Catalog.ofFiles calendarFiles = .ok catalog ∧
      StartsLine "import \x7b DateToJSON, JSONToDate \x7d from \"./calendar/date\";"
        (eventFile.outline.output .v5 catalog).text ∧
      ∃ target ∈ catalog.outlines, target.file ≠ "event.js" ∧
        "./calendar/date" = Specifier.between "event.js" target.file ∧
        StartsLine "export function JSONToDate(" (target.output .v5 catalog).text := by
  obtain ⟨catalog, run, lead⟩ := imports_lead_to_exports calendarFiles_accepted .v5
  cases run.symm.trans (Catalog.ofFiles_eq_ok calendarFiles_accepted)
  obtain ⟨lines, target, member, elsewhere, way, _, exports⟩ :=
    lead eventFile.outline (by decide) ⟨"./calendar/date", "Date"⟩ (by decide)
  exact ⟨_, run, lines _ (List.mem_cons_of_mem _ List.mem_cons_self), target, member, elsewhere,
    way, exports (.function "JSONToDate") (by decide)⟩

end FlowClients
