import FlowClients.Proofs.ClosedModule
import FlowClients.Request

/-!
Answers to requests. A request whose files are in supported dialects is always answered: with the
text of what is wrong with its parameter or its files and no file, or with a module for each of its
files and the transport module. Once the pool has taken the files nothing else can fail.
-/

namespace FlowClients

/-- Which answer a request gets: all of its output, or the text of a fault of its own. -/
structure Request.AnsweredWith (request : Request) (response : Response) : Prop where
  answered : request.answer = some response
  /-- Only a parameter or a set of files that is turned away is a failure. -/
  fails_iff : response.error ≠ none ↔
    (∃ cause, Version.ofParameter request.parameter = .error cause) ∨
      ∃ cause, PoolRejects request.files cause
  /-- The parameter is judged before the files. -/
  parameter_text : ∀ cause, Version.ofParameter request.parameter = .error cause →
    response.error = some (Failure.parameter cause).message
  pool_text : ∀ version cause, Version.ofParameter request.parameter = .ok version →
    PoolRejects request.files cause → response.error = some (Failure.rejected cause).message
  nothing : response.error ≠ none → response.files = []
  everything : response.error = none →
    response.files.map (·.path) = moduleFiles request.files ++ [transportFile]
  /-- The files that code is asked for make no difference. -/
  unwanted : ∀ wanted, { request with wantedFiles := wanted }.answer = some response
  /-- Files that the pool takes are all found again and extracted. -/
  extracted : (∀ cause, ¬ PoolRejects request.files cause) → ∃ schema catalog,
    Schema.ofFiles request.files = .ok schema ∧
      schema.catalog (request.files.map (·.name)) = .ok catalog
  not_absent : ∀ name, response.error ≠ some (Failure.absentFile name).message
  not_unopened : ∀ cause, response.error ≠ some (Failure.catalog cause).message

/-- What is wrong with a request: its parameter or, if that is in order, its files. -/
inductive Request.HasFault (request : Request) : Failure → Prop
  | parameter {cause : ParameterError}
      (refused : Version.ofParameter request.parameter = .error cause) :
      request.HasFault (.parameter cause)
  | files {version : Version} {cause : Rejection}
      (chosen : Version.ofParameter request.parameter = .ok version)
      (rejects : PoolRejects request.files cause) : request.HasFault (.rejected cause)

/-! ### Faults and their texts -/

theorem append_ne_append {p q : String} (s t : String)
    (apart : ¬ p.toList <+: q.toList ∧ ¬ q.toList <+: p.toList) : p ++ s ≠ q ++ t := by
  intro same
  have first : p.toList <+: (p ++ s).toList := by simp
  have second : q.toList <+: (p ++ s).toList := by simp [same]
  rcases List.prefix_or_prefix_of_prefix first second with inside | inside
  · exact apart.1 inside
  · exact apart.2 inside

namespace Request

variable {request : Request}

namespace HasFault

variable {fault : Failure}

/-- The faults of a request are told apart from failures of extraction by their texts. -/
theorem message_ne_absentFile (has : request.HasFault fault) (name : String) :
    fault.message ≠ (Failure.absentFile name).message := by
  have text : (Failure.absentFile name).message =
      "Parse error: File " ++ (name ++ " missing from descriptor pool") :=
    String.append_assoc ..
  rw [text]
  cases has with
  | parameter => exact append_ne_append _ _ (by decide)
  | files => exact append_ne_append _ _ (by decide)

theorem message_ne_catalog (has : request.HasFault fault) (cause : CatalogError) :
    fault.message ≠ (Failure.catalog cause).message := by
  cases has with
  | parameter => exact append_ne_append _ _ (by decide)
  | files => exact append_ne_append _ _ (by decide)

theorem output_eq_error (has : request.HasFault fault) :
    request.output = .error (.failed fault) := by
  cases has with
  | parameter refused =>
    rw [output, refused]
    rfl
  | files chosen rejects =>
    rw [output, chosen, Catalog.ofFiles, rejects.ofFiles_eq_error]
    rfl

theorem answer_eq (has : request.HasFault fault) :
    request.answer = some ⟨some fault.message, []⟩ := by
  rw [answer, has.output_eq_error]

theorem unique {other : Failure} (has : request.HasFault fault) (again : request.HasFault other) :
    fault = other := by
  have same := has.output_eq_error.symm.trans again.output_eq_error
  injection same with failed
  injection failed

end HasFault

/-! ### Answers -/

theorem answer_of_accepted {version : Version} {schema : Schema}
    (chosen : Version.ofParameter request.parameter = .ok version)
    (accepted : Schema.ofFiles request.files = .ok schema) :
    request.answer = some ⟨none, schema.extracted.output version⟩ := by
  have run : request.output = .ok (schema.extracted.output version) := by
    rw [output, chosen, Catalog.ofFiles_eq_ok accepted]
    rfl
  rw [answer, run]

/-- An answer without an error comes from accepted files. -/
theorem accepted_of_answer {response : Response} (answered : request.answer = some response)
    (succeeded : response.error = none) : ∃ version schema,
      Schema.ofFiles request.files = .ok schema ∧
        response.files = schema.extracted.output version := by
  unfold answer at answered
  split at answered
  · rename_i files run
    obtain ⟨version, _, rest⟩ := bind_eq_ok.mp run
    obtain ⟨catalog, extracted, result⟩ := bind_eq_ok.mp rest
    obtain ⟨schema, accepted, _⟩ := bind_eq_ok.mp extracted
    cases extracted.symm.trans (Catalog.ofFiles_eq_ok accepted)
    cases pure_eq_ok.mp result
    cases answered
    exact ⟨version, schema, accepted, rfl⟩
  · cases answered
    cases succeeded
  · cases answered

end Request

theorem Schema.output_paths {files : List FileDescriptor} {schema : Schema}
    (accepted : Schema.ofFiles files = .ok schema) (version : Version) :
    (schema.extracted.output version).map (·.path) = moduleFiles files ++ [transportFile] := by
  obtain ⟨names, known⟩ := Schema.ofFiles_accepted accepted
  have modules : schema.extracted.outlines.map (·.file) = moduleFiles files := by
    rw [← known.moduleFiles_eq, Schema.extracted, List.map_map]
    rfl
  rw [Catalog.output, List.map_append, List.map_map, ← modules]
  rfl

/-- Files that the pool takes are extracted without a failure. -/
theorem Schema.exists_catalog {files : List FileDescriptor}
    (supported : ∀ file ∈ files, file.dialectName ∈ [none, some "proto2", some "proto3"])
    (taken : ∀ cause, ¬ PoolRejects files cause) : ∃ schema catalog,
      Schema.ofFiles files = .ok schema ∧ schema.catalog (files.map (·.name)) = .ok catalog := by
  rcases Schema.ofFiles_cases supported with ⟨schema, accepted⟩ | ⟨cause, rejects⟩
  · obtain ⟨_, again, run⟩ := bind_eq_ok.mp (Catalog.ofFiles_eq_ok accepted)
    cases accepted.symm.trans again
    exact ⟨schema, _, accepted, orFailed_eq_ok.mp run⟩
  · exact absurd rejects (taken cause)

namespace Request

section Supported

variable {request : Request}
  (supported : ∀ file ∈ request.files, file.dialectName ∈ [none, some "proto2", some "proto3"])

include supported

theorem faulty_or_accepted : (∃ fault, request.HasFault fault) ∨ ∃ version schema,
    Version.ofParameter request.parameter = .ok version ∧
      Schema.ofFiles request.files = .ok schema := by
  cases parameter : Version.ofParameter request.parameter with
  | error cause => exact Or.inl ⟨_, .parameter parameter⟩
  | ok version =>
    rcases Schema.ofFiles_cases supported with ⟨schema, accepted⟩ | ⟨cause, rejects⟩
    · exact Or.inr ⟨version, schema, rfl, accepted⟩
    · exact Or.inl ⟨_, .files parameter rejects⟩

theorem HasFault.answeredWith {fault : Failure} (has : request.HasFault fault) :
    request.AnsweredWith ⟨some fault.message, []⟩ where
  answered := has.answer_eq
  fails_iff := by
    refine ⟨fun _ => ?_, fun _ => Option.some_ne_none _⟩
    cases has with
    | parameter refused => exact Or.inl ⟨_, refused⟩
    | files _ rejects => exact Or.inr ⟨_, rejects⟩
  parameter_text _ refused := by rw [has.unique (.parameter refused)]
  pool_text _ _ chosen rejects := by rw [has.unique (.files chosen rejects)]
  nothing _ := rfl
  everything := nofun
  unwanted _ := has.answer_eq
  extracted := Schema.exists_catalog supported
  not_absent name same := has.message_ne_absentFile name (Option.some.inj same)
  not_unopened cause same := has.message_ne_catalog cause (Option.some.inj same)

theorem answeredWith_output {version : Version} {schema : Schema}
    (chosen : Version.ofParameter request.parameter = .ok version)
    (accepted : Schema.ofFiles request.files = .ok schema) :
    request.AnsweredWith ⟨none, schema.extracted.output version⟩ where
  answered := answer_of_accepted chosen accepted
  fails_iff := by
    refine ⟨fun failed => absurd rfl failed, ?_⟩
    rintro (⟨cause, refused⟩ | ⟨cause, rejects⟩)
    · cases chosen.symm.trans refused
    · cases accepted.symm.trans rejects.ofFiles_eq_error
  parameter_text _ refused := by cases chosen.symm.trans refused
  pool_text _ _ _ rejects := by cases accepted.symm.trans rejects.ofFiles_eq_error
  nothing failed := absurd rfl failed
  everything _ := Schema.output_paths accepted version
  unwanted _ := answer_of_accepted chosen accepted
  extracted := Schema.exists_catalog supported
  not_absent := nofun
  not_unopened := nofun

end Supported

end Request

def hatRequest : Request := ⟨["shop.proto"], some "version=v6", hatFiles⟩

/-- Neither the parameter nor the files of this request are in order. -/
def faultyRequest : Request :=
  ⟨[], some "version=v7", [.plain "a.proto" "" [] [] [], .plain "a.proto" "" [] [] []]⟩

end FlowClients
