import FlowClients.Proofs.DateFields

/-!
Imports under the name of the type of timestamps. The language has that type, but the catalog puts a
message of the same name in its place, whichever file declares it. A module with nothing but
timestamps then imports the message; as long as no file declares one, no module does.
-/

namespace FlowClients

namespace Schema

/-- The field holds timestamps, one or many. -/
def Field.HoldsTimestamps (field : Field) : Prop :=
  ∃ fullName, field.kind = .message fullName ∧ isTimestamp fullName = true

def File.HoldsTimestamps (file : File) : Prop :=
  ∃ message ∈ file.messages, ∃ field ∈ message.fields, field.HoldsTimestamps

theorem Field.holdsDates_iff {field : Field} : field.extract.holdsDates = true ↔
    field.HoldsTimestamps ∨ field.kind.reference? = some timestampType := by
  constructor
  · intro dates
    obtain ⟨fullName, kind⟩ := message_of_holdsDates dates
    cases timestamps : isTimestamp fullName with
    | true => exact Or.inl ⟨fullName, kind, timestamps⟩
    | false =>
      have named := (holdsDates_of_message kind).mp dates
      rw [timestamps, or_iff_right Bool.false_ne_true] at named
      exact Or.inr (by rw [kind, FieldKind.reference?, timestamps, named]; rfl)
  · rintro (⟨fullName, kind, timestamps⟩ | refers)
    · exact (holdsDates_of_message kind).mpr (Or.inl timestamps)
    · rw [FlowClients.Field.holdsDates, singleType_extract, FieldKind.types_of_reference refers]
      exact beq_self_eq_true _

/-- The name of the type of timestamps is mentioned for timestamps or for messages of that name. -/
theorem File.mentions_timestampType {file : File} :
    timestampType ∈ file.outline.mentionedTypes ↔
      file.HoldsTimestamps ∨ timestampType ∈ file.references := by
  have mentioned : file.outline.mentionedTypes =
      file.messages.flatMap (fun message => message.fields.map (·.extract.singleType)) ++
        file.services.flatMap fun service =>
          (service.methods.filter (!·.isStreaming)).flatMap fun method =>
            [method.request.name, method.response.name] := by
    simp only [Outline.mentionedTypes, File.outline, Message.extract, Service.extract,
      Method.extract, List.flatMap_map, List.map_map, Function.comp_def]
  have inFields : timestampType ∈ file.messages.flatMap
      (fun message => message.fields.map (·.extract.singleType)) ↔ file.HoldsTimestamps ∨
        timestampType ∈ file.messages.flatMap
          fun message => message.fields.filterMap (·.kind.reference?) := by
    have dates (field : Field) : field.extract.singleType = timestampType ↔
        field.HoldsTimestamps ∨ field.kind.reference? = some timestampType := by
      rw [← Field.holdsDates_iff, FlowClients.Field.holdsDates, beq_iff_eq]
    simp only [List.mem_flatMap, List.mem_map, List.mem_filterMap, dates, File.HoldsTimestamps,
      and_or_left, exists_or]
  rw [mentioned, File.references, List.mem_append, List.mem_append, inFields, or_assoc]

/-- A name stands for the last model that the files declare under it, if they declare any. -/
theorem find?_declared_iff {schema : Schema} {name : String} {model : Model} :
    schema.extracted.find? name = some model ∧ model.builtin = false ↔
      schema.extracted.latest? name = some model := by
  have look := schema.extracted_agrees.find?_eq name
  cases latest : schema.extracted.latest? name with
  | none =>
    rw [latest, Option.none_or] at look
    refine ⟨fun ⟨found, declared⟩ => ?_, nofun⟩
    rw [look, Option.ite_none_right_eq_some] at found
    cases Option.some.inj found.2
    cases declared
  | some last =>
    rw [latest, Option.some_or] at look
    rw [look]
    refine ⟨And.left, fun same => ⟨same, ?_⟩⟩
    rw [← Option.some.inj same]
    exact builtin_of_mem (Catalog.mem_of_latest? latest).1

end Schema

/-- The entries of a module under the name of the type of timestamps, if it mentions that name for
timestamps only: one for the message of that name that the catalog holds last, unless it is the
module's own. As long as no file declares a message of that name there is no such entry. -/
theorem date_imports {files : List FileDescriptor} {schema : Schema}
    (accepted : Schema.ofFiles files = .ok schema) :
    ∃ catalog, Catalog.ofFiles files = .ok catalog ∧
      catalog.outlines = schema.clientFiles.map Schema.File.outline ∧
      ∀ file ∈ schema.clientFiles, timestampType ∉ file.references →
        (∀ entry, entry ∈ file.outline.imports catalog ∧ entry.model = timestampType ↔
          file.HoldsTimestamps ∧ ∃ last, catalog.latest? timestampType = some last ∧
            last.file ≠ file.outline.file ∧
            entry = ⟨Specifier.between file.outline.file last.file, timestampType⟩) ∧
        (timestampType ∉ topLevelNames files →
          ∀ entry ∈ file.outline.imports catalog, entry.model ≠ timestampType) := by
  obtain ⟨names, known⟩ := Schema.ofFiles_accepted accepted
  refine ⟨schema.extracted, Catalog.ofFiles_eq_ok accepted, rfl, ?_⟩
  intro file _ timestampsOnly
  have mentioned : timestampType ∈ file.outline.mentionedTypes ↔ file.HoldsTimestamps := by
    rw [Schema.File.mentions_timestampType, or_iff_left timestampsOnly]
  have entries : ∀ entry, entry ∈ file.outline.imports schema.extracted ∧
      entry.model = timestampType ↔ file.HoldsTimestamps ∧
        ∃ last, schema.extracted.latest? timestampType = some last ∧
          last.file ≠ file.outline.file ∧
          entry = ⟨Specifier.between file.outline.file last.file, timestampType⟩ := by
    intro entry
    constructor
    · rintro ⟨member, named⟩
      obtain ⟨inModule, last, found, declared, elsewhere, way⟩ := Outline.mem_imports.mp member
      rw [named] at inModule found
      exact ⟨mentioned.mp inModule, last, Schema.find?_declared_iff.mp ⟨found, declared⟩, elsewhere,
        by rw [← way, ← named]⟩
    · rintro ⟨holds, last, latest, elsewhere, rfl⟩
      obtain ⟨found, declared⟩ := Schema.find?_declared_iff.mpr latest
      exact ⟨Outline.mem_imports.mpr
        ⟨mentioned.mpr holds, last, found, declared, elsewhere, rfl⟩, rfl⟩
  refine ⟨entries, fun undeclared entry member named => ?_⟩
  obtain ⟨_, last, latest, _⟩ := (entries entry).mp ⟨member, named⟩
  obtain ⟨lastMember, lastName⟩ := Catalog.mem_of_latest? latest
  rw [Schema.models_extracted] at lastMember
  rw [← known.names_of_models] at undeclared
  exact undeclared (List.mem_map.mpr ⟨last, lastMember, lastName⟩)

/-- A file with timestamps only, and another one that declares a message of the name of their type. -/
def diaryFiles : List FileDescriptor :=
  [.plain "diary.proto" "diary" [timestampFile]
    [.plain "Entry" [.referring "at" 1 ".google.protobuf.Timestamp",
      { FieldDescriptor.referring "seen" 2 ".google.protobuf.Timestamp" with label := .repeated }]
      []] [],
    .plain "calendar/date.proto" "calendar" [] [.plain "Date" [] []] [],
    .plain timestampFile "google.protobuf" [] [.plain "Timestamp" [] []] []]

def diaryFile : Schema.File :=
  ⟨"diary.proto", "diary", [⟨"Entry", [⟨"at", 1, false, .message "google.protobuf.Timestamp"⟩,
    ⟨"seen", 2, true, .message "google.protobuf.Timestamp"⟩]⟩], []⟩

def dateFile : Schema.File := ⟨"calendar/date.proto", "calendar", [⟨"Date", []⟩], []⟩

def diarySchema : Schema :=
  ⟨[diaryFile, dateFile, ⟨timestampFile, "google.protobuf", [⟨"Timestamp", []⟩], []⟩]⟩

theorem diaryFiles_accepted : Schema.ofFiles diaryFiles = .ok diarySchema := by rfl

theorem date_imports_diary :
    ∃ catalog, Catalog.ofFiles diaryFiles = .ok catalog ∧
      ⟨"./calendar/date", "Date"⟩ ∈ diaryFile.outline.imports catalog ∧
      ∀ entry ∈ dateFile.outline.imports catalog, entry.model ≠ "Date" := by
  obtain ⟨catalog, run, _, entries⟩ := date_imports diaryFiles_accepted
  cases run.symm.trans (Catalog.ofFiles_eq_ok diaryFiles_accepted)
  have ofDiary := (entries diaryFile (by decide) (by decide)).1
  have ofDate := (entries dateFile (by decide) (by decide)).1
  have holds : diaryFile.HoldsTimestamps := ⟨_, List.mem_cons_self, _, List.mem_cons_self, _, rfl,
    by decide⟩
  refine ⟨_, run, ((ofDiary _).mpr ⟨holds, _, rfl, by decide, rfl⟩).1, fun entry member named => ?_⟩
  obtain ⟨⟨_, within, _, inMessage, _⟩, _⟩ := (ofDate entry).mp ⟨member, named⟩
  rw [List.mem_singleton.mp within] at inMessage
  cases inMessage

/-- The module of the first file mentions the name for timestamps only, and imports it. -/
theorem timestamps_import_namesake :
    ∃ catalog, Catalog.ofFiles diaryFiles = .ok catalog ∧
      catalog.outlines = diarySchema.clientFiles.map Schema.File.outline ∧
      ∃ file ∈ diarySchema.clientFiles, timestampType ∉ file.references ∧
        ∃ entry ∈ file.outline.imports catalog, entry.model = timestampType :=
  ⟨diarySchema.extracted, Catalog.ofFiles_eq_ok diaryFiles_accepted, rfl, diaryFile, by decide,
    by decide, ⟨"./calendar/date", "Date"⟩, by decide, rfl⟩

end FlowClients
