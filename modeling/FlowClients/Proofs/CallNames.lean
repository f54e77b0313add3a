import FlowClients.Proofs.ClassText
import FlowClients.Proofs.LetterCase

/-!
Which calls use a name twice. The constants and the function that sends the request have fixed names,
the parameter and the converters are named after messages. The parameter can take a fixed name, and
the two converters can have the same name, since one adds an ending and the other a beginning.
-/

namespace FlowClients

open Pool

namespace CallDecl

/-- The constants in the body of a call and the functions that it calls. -/
def bodyNames (call : CallDecl) : List String :=
  call.statements.filterMap Statement.constant? ++ call.statements.filterMap Statement.function?

def names (call : CallDecl) : List String := call.parameters.map (·.1) ++ call.bodyNames

end CallDecl

/-- The names in every call with an argument that are not made from the names of its messages. -/
def fixedNames : List String := ["url", "body", "sendTwirpRequest"]

/-- The function that serializes the one message is called like the one that deserializes the
other. -/
inductive SameConverter : String → String → Prop
  | json : SameConverter "JSON" "JSON"
  | around (core : String) : SameConverter ("JSONTo" ++ core) (core ++ "ToJSON")

/-- The ways in which a call uses a name twice. Without an argument there is none. -/
inductive CallDecl.Clash (call : CallDecl) : Prop
  | parameter {word : String} (fixed : word ∈ fixedNames) (named : isWord word call.request = true)
      (takes : call.shape.takesArgument = true)
  | data (named : isWord "data" call.request = true) (takes : call.shape.takesArgument = true)
      (has : call.shape.hasResult = true)
  | converters (same : SameConverter call.request call.response)
      (takes : call.shape.takesArgument = true) (has : call.shape.hasResult = true)

/-! ### Names of converters -/

theorem last_serializerName (model : String) :
    (serializerName model).toList.getLast? = some 'N' := by
  simp [serializerName]

theorem head_deserializerName (model : String) :
    (deserializerName model).toList.head? = some 'J' := by
  simp [deserializerName]

theorem head_decapitalize {name : String} (ascii : isAscii name = true) :
    (decapitalize name).toList.head? ≠ some 'J' := by
  rw [toList_decapitalize ascii]
  cases name.toList with
  | nil => nofun
  | cons c cs =>
    intro same
    have capital : c.toLower = 'J' := Option.some.inj same
    have notCapital := Char.isUpper_toLower_eq_false c
    rw [capital] at notCapital
    cases notCapital

theorem decapitalize_ne_serializerName {name : String} (ascii : isAscii name = true) :
    decapitalize name ≠ serializerName name := by
  intro same
  have lengths := congrArg (·.toList.length) same
  simp [toList_decapitalize ascii, serializerName] at lengths

theorem decapitalize_ne_deserializerName {name : String} (ascii : isAscii name = true)
    (model : String) : decapitalize name ≠ deserializerName model := by
  intro same
  exact head_decapitalize ascii (same ▸ head_deserializerName model)

/-- The one converter's beginning and the other's ending overlap in two letters or not at all. -/
theorem overlap_cases {overlap : List Char} (ending : overlap <:+ "JSONTo".toList)
    (beginning : overlap <+: "ToJSON".toList) : overlap = [] ∨ overlap = "To".toList := by
  have all : ∀ overlap ∈ "JSONTo".toList.tails, overlap.isPrefixOf "ToJSON".toList = true →
      overlap = [] ∨ overlap = "To".toList := by decide
  exact all overlap ((List.mem_tails _ _).mpr ending) (List.isPrefixOf_iff_prefix.mpr beginning)

theorem serializerName_eq_deserializerName_iff {request response : String} :
    serializerName request = deserializerName response ↔ SameConverter request response := by
  constructor
  · intro same
    have texts := String.toList_inj.mpr same
    simp only [serializerName, deserializerName, String.toList_append] at texts
    rcases List.append_eq_append_iff.mp texts with ⟨overlap, front, back⟩ | ⟨core, front, back⟩
    · rcases overlap_cases ⟨_, front.symm⟩ ⟨_, back.symm⟩ with rfl | rfl
      · have first : request = "JSONTo" ++ "" := String.toList_inj.mp (by simpa using front.symm)
        have second : response = "" ++ "ToJSON" := String.toList_inj.mp (by simpa using back.symm)
        exact first ▸ second ▸ SameConverter.around ""
      · have first : request.toList = "JSON".toList := List.append_cancel_right front.symm
        have second : response.toList = "JSON".toList := List.append_cancel_left back.symm
        exact String.toList_inj.mp first ▸ String.toList_inj.mp second ▸ SameConverter.json
    · have first : request = "JSONTo" ++ String.ofList core :=
        String.toList_inj.mp (by simpa using front)
      have second : response = String.ofList core ++ "ToJSON" :=
        String.toList_inj.mp (by simpa using back)
      exact first ▸ second ▸ SameConverter.around _
  · rintro (_ | core)
    · rfl
    · simp [serializerName, deserializerName, String.append_assoc]

/-! ### Names in a call -/

namespace CallDecl

variable {call : CallDecl}

theorem clash_iff : call.Clash ↔ call.shape.takesArgument = true ∧
    ((∃ word ∈ fixedNames, isWord word call.request = true) ∨ call.shape.hasResult = true ∧
      (isWord "data" call.request = true ∨ SameConverter call.request call.response)) := by
  constructor
  · rintro (⟨fixed, named, takes⟩ | ⟨named, takes, has⟩ | ⟨same, takes, has⟩)
    · exact ⟨takes, Or.inl ⟨_, fixed, named⟩⟩
    · exact ⟨takes, Or.inr ⟨has, Or.inl named⟩⟩
    · exact ⟨takes, Or.inr ⟨has, Or.inr same⟩⟩
  · rintro ⟨takes, ⟨word, fixed, named⟩ | ⟨has, named | same⟩⟩
    · exact .parameter fixed named takes
    · exact .data named takes has
    · exact .converters same takes has

theorem bodyNames_eq (call : CallDecl) : call.bodyNames =
    ("url" :: (if call.shape.takesArgument then ["body"] else []) ++
      if call.shape.hasResult then ["data"] else []) ++
    ((if call.shape.takesArgument then [serializerName call.request] else []) ++
      "sendTwirpRequest" ::
        if call.shape.hasResult then [deserializerName call.response] else []) := by
  unfold bodyNames statements
  cases call.shape.takesArgument <;> cases call.shape.hasResult <;> rfl

theorem fixed_ne_converters (call : CallDecl) :
    ∀ word ∈ "data" :: fixedNames,
      word ≠ serializerName call.request ∧ word ≠ deserializerName call.response := by
  have letters : ∀ word ∈ "data" :: fixedNames,
      word.toList.getLast? ≠ some 'N' ∧ word.toList.head? ≠ some 'J' := by decide
  intro word fixed
  constructor
  · rintro rfl
    exact (letters _ fixed).1 (last_serializerName _)
  · rintro rfl
    exact (letters _ fixed).2 (head_deserializerName _)

/-- In the body only the two converters can have the same name. -/
theorem bodyNames_nodup_iff (call : CallDecl) : call.bodyNames.Nodup ↔
    ¬ (call.shape.takesArgument = true ∧ call.shape.hasResult = true ∧
      SameConverter call.request call.response) := by
  have apart := call.fixed_ne_converters
  simp only [fixedNames, List.forall_mem_cons] at apart
  obtain ⟨data, url, body, send, _⟩ := apart
  rw [bodyNames_eq, ← serializerName_eq_deserializerName_iff]
  cases call.shape.takesArgument <;> cases call.shape.hasResult
  · simp
  · simp [data.2, url.2, send.2]
  · simp [url.1, body.1, send.1.symm]
  · simp [data, url, body, send.1.symm, send.2]

/-- The parameter is not called like a converter. A deserializer begins with a capital, and the
serializer is longer than the name of its message. -/
theorem argument_mem_bodyNames (named : call.argument = decapitalize call.request)
    (ascii : isAscii call.request = true) (takes : call.shape.takesArgument = true) :
    call.argument ∈ call.bodyNames ↔ (∃ word ∈ fixedNames, isWord word call.request = true) ∨
      (call.shape.hasResult = true ∧ isWord "data" call.request = true) := by
  have words : ∀ word ∈ "data" :: fixedNames, isAscii word = true ∧ startsSmall word = true := by
    decide
  -- The parameter takes a fixed name from a message that has it, with a small or a capital letter.
  have taken : ∀ word ∈ "data" :: fixedNames,
      (call.argument = word ↔ isWord word call.request = true) := by
    intro word fixed
    rw [named]
    exact decapitalize_eq_word ascii (words word fixed).1 (words word fixed).2
  have serializer : call.argument ≠ serializerName call.request :=
    named ▸ decapitalize_ne_serializerName ascii
  have deserializer : call.argument ≠ deserializerName call.response :=
    named ▸ decapitalize_ne_deserializerName ascii call.response
  simp only [fixedNames, List.forall_mem_cons] at taken
  obtain ⟨data, url, body, send, _⟩ := taken
  simp only [fixedNames, List.exists_mem_cons_iff, ← data, ← url, ← body, ← send]
  rw [bodyNames_eq, takes]
  cases call.shape.hasResult
  · simp [serializer]
  · simp [serializer, deserializer, or_comm, or_left_comm]

theorem names_nodup_iff (named : call.argument = decapitalize call.request)
    (ascii : isAscii call.request = true) : call.names.Nodup ↔ ¬ call.Clash := by
  rw [clash_iff, names, parameters]
  cases takes : call.shape.takesArgument with
  | false => simp [bodyNames_nodup_iff, takes]
  | true =>
    have single : (if true then [(call.argument, call.request)] else []).map (·.1) ++
        call.bodyNames = call.argument :: call.bodyNames := rfl
    rw [single, List.nodup_cons, argument_mem_bodyNames named ascii takes, bodyNames_nodup_iff,
      takes, ← not_or, or_assoc]
    simp only [true_and, and_or_left]

end CallDecl

/-- A call is made for a method whose request and response are declared messages. -/
theorem Accepted.call_origin {files : List FileDescriptor} {names : Names} {schema : Schema}
    (accepted : Accepted files names schema) {version : Version} {outline : Outline}
    {declaration : ClassDecl} {call : CallDecl} (outlineMember : outline ∈ schema.extracted.outlines)
    (classMember : declaration ∈ (outline.clientModule version schema.extracted).classes)
    (callMember : call ∈ declaration.calls) :
    call.argument = decapitalize call.request ∧ call.request ∈ messageNames files ∧
      call.response ∈ messageNames files := by
  obtain ⟨file, fileMember, rfl⟩ := List.mem_map.mp outlineMember
  simp only [Outline.clientModule, Schema.File.outline, List.map_map] at classMember
  obtain ⟨service, serviceMember, rfl⟩ := List.mem_map.mp classMember
  simp only [Function.comp_apply, Service.declaration, Schema.Service.extract, List.map_map]
    at callMember
  obtain ⟨method, methodMember, rfl⟩ := List.mem_map.mp callMember
  have declared : ∀ ref, ref = method.request ∨ ref = method.response →
      ref.name ∈ messageNames files := fun ref mentioned =>
    (accepted.ref_declared (Schema.mem_clientFiles fileMember) serviceMember
      (List.mem_filter.mp methodMember).1 mentioned).mem_messageNames
  exact ⟨rfl, declared _ (Or.inl rfl), declared _ (Or.inr rfl)⟩

/-- Every call in the modules that are made from accepted files passes a message and returns one, and
its text is made up of its parameters and statements. The parameter, the constants in the body and
the functions that it calls have names of their own unless the messages have one of a few names. -/
theorem call_names_nodup_iff {files : List FileDescriptor} {schema : Schema}
    (accepted : Schema.ofFiles files = .ok schema)
    (identifiers : ∀ name ∈ messageNames files, isIdentifier name = true) (version : Version) :
    ∃ catalog, Catalog.ofFiles files = .ok catalog ∧ ∀ outline ∈ catalog.outlines,
      ∀ declaration ∈ (outline.clientModule version catalog).classes,
        ∀ call ∈ declaration.calls,
          ClientModule.callText call = "\n\n  async " ++ call.name ++ call.definition ∧
          (call.argument = decapitalize call.request ∧ call.request ∈ messageNames files ∧
            call.response ∈ messageNames files) ∧
          (call.names.Nodup ↔ ¬ call.Clash) := by
  obtain ⟨names, known⟩ := Schema.ofFiles_accepted accepted
  refine ⟨schema.extracted, Catalog.ofFiles_eq_ok accepted, ?_⟩
  intro outline outlineMember declaration classMember call callMember
  have origin := known.call_origin outlineMember classMember callMember
  have ascii := isAscii_of_identifier (identifiers _ origin.2.1)
  exact ⟨ClientModule.callText_eq call, origin, CallDecl.names_nodup_iff origin.1 ascii⟩

/-- Calls with an argument of one type, of which the first has no result. -/
def counterFiles : List FileDescriptor :=
  let amount : FieldDescriptor := ⟨"amount", 1, .optional, .int32, "", none, none, none, none⟩
  [.plain "counter.proto" "" [] [.plain "Data" [amount] [], .plain "Empty" [] []]
    [⟨"Counter", [⟨"Send", "Data", "Empty", false, false⟩, ⟨"Count", "Data", "Data", false, false⟩]⟩]]

def counterSchema : Schema :=
  let data : Schema.MessageRef := ⟨"Data", "Data"⟩
  ⟨[⟨"counter.proto", "", [⟨"Data", [⟨"amount", 1, false, .scalar .int32⟩]⟩, ⟨"Empty", []⟩],
    [⟨"Counter", [⟨"Send", data, ⟨"Empty", "Empty"⟩, false⟩, ⟨"Count", data, data, false⟩]⟩]⟩]⟩

theorem counterFiles_accepted : Schema.ofFiles counterFiles = .ok counterSchema := by rfl

theorem call_names_nodup_iff_counter :
    ∃ catalog, Catalog.ofFiles counterFiles = .ok catalog ∧ ∃ outline ∈ catalog.outlines,
      ∃ declaration ∈ (outline.clientModule .v5 catalog).classes, ∃ send count,
        declaration.calls = [send, count] ∧
        send.names = ["data", "url", "body", "DataToJSON", "sendTwirpRequest"] ∧
        send.names.Nodup ∧ ¬ count.names.Nodup := by
  obtain ⟨catalog, run, each⟩ :=
    call_names_nodup_iff counterFiles_accepted (by decide) .v5
  have same := (Catalog.ofFiles_eq_ok counterFiles_accepted).symm.trans run
  cases same
  refine ⟨_, run, _, List.mem_cons_self, _, List.mem_cons_self, _, _, rfl, by decide, ?_, ?_⟩
  · refine (each _ List.mem_cons_self _ List.mem_cons_self _ List.mem_cons_self).2.2.mpr ?_
    rw [CallDecl.clash_iff]
    rintro ⟨_, ⟨word, fixed, named⟩ | ⟨has, _⟩⟩
    · exact absurd named ((by decide : ∀ word ∈ fixedNames, ¬ isWord word "Data" = true) word fixed)
    · exact absurd has (by decide)
  · intro distinct
    have clean := (each _ List.mem_cons_self _ List.mem_cons_self _
      (List.mem_cons_of_mem _ List.mem_cons_self)).2.2.mp distinct
    exact clean (.data (by decide) (by decide) (by decide))

/-- Messages that are called like what the body of a call needs. -/
def clashingFiles : List FileDescriptor :=
  let text : FieldDescriptor := ⟨"text", 1, .optional, .string, "", none, none, none, none⟩
  let unary (name request response : String) : MethodDescriptor :=
    ⟨name, request, response, false, false⟩
  [.plain "clashing.proto" "" []
    (["Url", "body", "SendTwirpRequest", "Data", "JSON", "JSONToCoin", "CoinToJSON"].map
      (.plain · [text] []) ++ [.plain "Empty" [] []])
    [⟨"Clashing",
      [unary "Open" "Url" "Empty", unary "Fill" "body" "Empty",
        unary "Fire" "SendTwirpRequest" "Empty", unary "Store" "Data" "Data",
        unary "Parse" "JSON" "JSON", unary "Flip" "JSONToCoin" "CoinToJSON"]⟩]]

/-- Every call of the module uses a name twice. -/
theorem call_names_overlap :
    (∃ schema, Schema.ofFiles clashingFiles = .ok schema) ∧
      (∀ name ∈ messageNames clashingFiles, isIdentifier name = true) ∧
      ∃ catalog, Catalog.ofFiles clashingFiles = .ok catalog ∧ ∃ outline ∈ catalog.outlines,
        ∃ declaration ∈ (outline.clientModule .v5 catalog).classes,
          declaration.calls.map (·.name) = ["open", "fill", "fire", "store", "parse", "flip"] ∧
          ∀ call ∈ declaration.calls, ¬ call.names.Nodup := by
  refine ⟨⟨_, rfl⟩, by decide, _, rfl, _, List.mem_cons_self, _, List.mem_cons_self, ?_⟩
  decide

end FlowClients
