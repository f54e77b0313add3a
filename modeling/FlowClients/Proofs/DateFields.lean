import FlowClients.Proofs.Exports

/-!
Which fields hold dates. The type of a field is decided by the full name that it refers to, its
conversions by the text of that type, so that a message whose simple name is that of the type of
timestamps is converted like a timestamp. Every other message has converters of its own name.
-/

namespace FlowClients

theorem dropWhile_eq_iff {c : Char} {text rest : List Char} (other : rest.head? ≠ some c) :
    text.dropWhile (· == c) = rest ↔ ∃ n, text = List.replicate n c ++ rest := by
  constructor
  · rintro rfl
    refine ⟨(text.takeWhile (· == c)).length, ?_⟩
    have leading : text.takeWhile (· == c) = List.replicate (text.takeWhile (· == c)).length c :=
      List.eq_replicate_of_mem fun d member => by
        simpa using List.all_eq_true.mp (List.all_takeWhile (p := (· == c))) d member
    rw [← leading, List.takeWhile_append_dropWhile]
  · rintro ⟨n, rfl⟩
    induction n with
    | zero =>
      cases rest with
      | nil => rfl
      | cons d rest =>
        have apart : d ≠ c := fun same => other (by rw [same, List.head?_cons])
        simp [apart]
    | succ n ih => simpa [List.replicate_succ] using ih

theorem isTimestamp_iff {fullName : String} :
    isTimestamp fullName = true ↔
      ∃ n, fullName.toList = List.replicate n '.' ++ timestampMessage.toList := by
  rw [isTimestamp, beq_iff_eq]
  exact dropWhile_eq_iff (by decide)

namespace Field

/-- The expressions of the field convert single values by two given converters, each element of a
list and what is present of others. A single date is constructed even from nothing. -/
structure ConvertsBy (field : Field) (toWire fromWire : Converter) : Prop where
  serialized : field.serialized =
    if field.isRepeated then .convertEach toWire (.member field.name)
    else .ifPresent (.member field.name) (.convert toWire (.member field.name))
      (.constant .undefined)
  deserialized : field.deserialized =
    if field.isRepeated then
      .ifPresent (.member field.wireName) (.convertEach fromWire (.member field.wireName))
        (.constant .emptyList)
    else if fromWire = .textToDate then .convert .textToDate (.member field.wireName)
    else .ifPresent (.member field.wireName) (.convert fromWire (.member field.wireName))
      (.constant .null)

variable {field : Field}

theorem convertsBy_dates (dates : field.holdsDates = true) :
    field.ConvertsBy .dateToText .textToDate := by
  constructor <;> cases repeated : field.isRepeated <;>
    simp [serialized, deserialized, serializer?, deserializer?, dates, repeated]

theorem convertsBy_model (other : field.holdsDates = false) (message : field.isMessage = true) :
    field.ConvertsBy (.toWire field.singleType) (.fromWire field.singleType) := by
  constructor <;> cases repeated : field.isRepeated <;>
    simp [serialized, deserialized, serializer?, deserializer?, other, message, repeated]

end Field

namespace Schema.Field

variable {field : Schema.Field} {fullName : String}

theorem holdsDates_of_message (kind : field.kind = .message fullName) :
    field.extract.holdsDates = true ↔
      isTimestamp fullName = true ∨ simpleName fullName = timestampType := by
  rw [FlowClients.Field.holdsDates, singleType_extract, beq_iff_eq, kind, FieldKind.types,
    messageTypes]
  cases isTimestamp fullName <;> simp

theorem message_of_holdsDates (dates : field.extract.holdsDates = true) :
    ∃ fullName, field.kind = .message fullName := by
  rw [FlowClients.Field.holdsDates, singleType_extract, beq_iff_eq] at dates
  cases kind : field.kind with
  | message fullName => exact ⟨fullName, rfl⟩
  | scalar type =>
    rw [kind] at dates
    cases type <;> exact absurd dates (by decide)
  | group | enum =>
    rw [kind] at dates
    exact absurd (show "string" = timestampType from dates) (by decide)

theorem singleType_of_other (kind : field.kind = .message fullName)
    (other : isTimestamp fullName = false) : field.extract.singleType = simpleName fullName := by
  rw [singleType_extract, kind, FieldKind.types, messageTypes, other]
  rfl

end Schema.Field

/-- A field that is extracted from accepted files holds dates exactly if it refers to timestamps, by
a full name that dots may precede, or to a message with the simple name of their type. Its values
are then converted as dates, otherwise by the converters named after the message. -/
theorem date_conversions {files : List FileDescriptor} {schema : Schema}
    (accepted : Schema.ofFiles files = .ok schema) :
    ∃ catalog, Catalog.ofFiles files = .ok catalog ∧
      catalog.outlines = schema.clientFiles.map Schema.File.outline ∧
      ∀ file ∈ schema.clientFiles, ∀ message ∈ file.messages, ∀ field ∈ message.fields,
        (field.extract.holdsDates = true → ∃ fullName, field.kind = .message fullName) ∧
        ∀ fullName, field.kind = .message fullName →
          ∃ name, DeclaresMessage files ⟨fullName, name⟩ ∧
          ('.' ∉ name.toList → simpleName fullName = name) ∧
          (field.extract.holdsDates = true ↔
            (∃ n, fullName.toList = List.replicate n '.' ++ timestampMessage.toList) ∨
              simpleName fullName = timestampType) ∧
          (field.extract.holdsDates = true → field.extract.ConvertsBy .dateToText .textToDate) ∧
          (field.extract.holdsDates = false → field.extract.ConvertsBy
            (.toWire (simpleName fullName)) (.fromWire (simpleName fullName))) := by
  obtain ⟨names, known⟩ := Schema.ofFiles_accepted accepted
  refine ⟨schema.extracted, Catalog.ofFiles_eq_ok accepted, rfl, ?_⟩
  intro file fileMember message messageMember field member
  refine ⟨Schema.Field.message_of_holdsDates, fun fullName kind => ?_⟩
  obtain ⟨name, declared⟩ :=
    known.field_declared (Schema.mem_clientFiles fileMember) messageMember member kind
  have dates := Schema.Field.holdsDates_of_message kind
  refine ⟨name, declared, declared.simpleName_eq, ?_, Field.convertsBy_dates, fun other => ?_⟩
  · rw [dates, isTimestamp_iff]
  · have proper : isTimestamp fullName = false := by
      by_contra timestamp
      rw [dates.mpr (Or.inl (Bool.not_eq_false _ ▸ timestamp))] at other
      cases other
    have isMessage : field.extract.isMessage = true := by
      change field.kind.isMessage = true
      rw [kind]
      rfl
    rw [← Schema.Field.singleType_of_other kind proper]
    exact Field.convertsBy_model other isMessage

theorem date_conversions_calendar :
    (⟨"at", 1, false, .message "google.protobuf.Timestamp"⟩ : Schema.Field).extract.holdsDates = true ∧
      (⟨"day", 2, false, .message "calendar.Date"⟩ : Schema.Field).extract.ConvertsBy
        .dateToText .textToDate := by
  obtain ⟨_, _, _, dates⟩ := date_conversions calendarFiles_accepted
  have fields := dates eventFile (by decide) eventMessage (by decide)
  obtain ⟨_, _, _, ofTime, _⟩ := (fields ⟨"at", 1, false, .message "google.protobuf.Timestamp"⟩
    (by decide)).2 _ rfl
  obtain ⟨_, _, _, ofDay, conversions, _⟩ := (fields ⟨"day", 2, false, .message "calendar.Date"⟩
    (by decide)).2 _ rfl
  exact ⟨ofTime.mpr (Or.inl ⟨0, rfl⟩), conversions (ofDay.mpr (Or.inr (by decide)))⟩

/-- A message of another package than that of timestamps, but with the simple name of their type,
is converted as a date. The module of its own file exports converters that are never called. -/
theorem date_namesake_converted_as_date :
    ∃ catalog, Catalog.ofFiles calendarFiles = .ok catalog ∧
      catalog.outlines = calendarSchema.clientFiles.map Schema.File.outline ∧
      ∃ file ∈ calendarSchema.clientFiles, ∃ message ∈ file.messages, ∃ field ∈ message.fields,
        field.kind = .message "calendar.Date" ∧ isTimestamp "calendar.Date" = false ∧
        field.extract.holdsDates = true ∧
        field.extract.serialized.text = "m.day != null ? m.day.toISOString() : undefined" ∧
        field.extract.deserialized.text = "new Date(m.day)" :=
  ⟨calendarSchema.extracted, Catalog.ofFiles_eq_ok calendarFiles_accepted, rfl, eventFile, by decide,
    eventMessage, by decide, ⟨"day", 2, false, .message "calendar.Date"⟩, by decide, rfl, by decide,
    by decide, by decide, by decide⟩

end FlowClients
