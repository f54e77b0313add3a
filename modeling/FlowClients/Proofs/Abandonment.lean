import FlowClients.Proofs.Answer

/-!
Requests without an answer. A run is abandoned at a file in a dialect that is not supported, whatever
else the files hold, unless the parameter has been refused before the files are looked at. Nothing
else keeps a request from its answer.
-/

namespace FlowClients

/-- A run through a list that fails does so with what one of the elements fails with. -/
theorem exists_of_mapM_eq_error {α β ε : Type} {f : α → Except ε β} {xs : List α} {e : ε}
    (failed : xs.mapM f = .error e) : ∃ x ∈ xs, f x = .error e := by
  induction xs with
  | nil => cases failed
  | cons x xs ih =>
    rw [List.mapM_cons] at failed
    cases atHead : f x with
    | error cause =>
      rw [atHead] at failed
      cases failed
      exact ⟨x, List.mem_cons_self, atHead⟩
    | ok y =>
      cases atTail : xs.mapM f with
      | error cause =>
        rw [atHead, atTail] at failed
        cases failed
        obtain ⟨z, later, same⟩ := ih atTail
        exact ⟨z, List.mem_cons_of_mem x later, same⟩
      | ok ys =>
        rw [atHead, atTail] at failed
        cases failed

theorem FileDescriptor.withDialect_unsupported {file : FileDescriptor}
    (unsupported : file.dialectName ∉ [none, some "proto2", some "proto3"]) :
    ∀ result, file.withDialect ≠ .ok result := by
  intro result run
  cases named : file.dialectName with
  | none => exact unsupported (by simp [named])
  | some name =>
    simp only [named, List.mem_cons, Option.some.injEq, reduceCtorEq, List.not_mem_nil, false_or,
      or_false, not_or] at unsupported
    obtain ⟨notOlder, notNewer⟩ := unsupported
    have none : file.dialect? = none := by
      simp only [dialect?, named, if_neg notOlder, if_neg notNewer]
    rw [withDialect, none] at run
    cases run

theorem FileDescriptor.withDialect_eq_error {file : FileDescriptor} {fault : Fault}
    (failed : file.withDialect = .error fault) :
    fault = .unsupportedDialect (file.dialectName.getD "") := by
  unfold withDialect at failed
  split at failed
  · cases failed
  · cases failed
    rfl

/-- One file in an unsupported dialect ends the run before the pool sees any. -/
theorem Schema.ofFiles_unsupported {files : List FileDescriptor} {file : FileDescriptor}
    (member : file ∈ files)
    (unsupported : file.dialectName ∉ [none, some "proto2", some "proto3"]) :
    ∃ name, Schema.ofFiles files = .error (.unsupportedDialect name) := by
  cases looked : files.mapM (·.withDialect) with
  | ok dialected =>
    obtain ⟨result, _, run⟩ := exists_of_mem_forall₂ (mapM_eq_ok.mp looked).flip member
    exact absurd run (FileDescriptor.withDialect_unsupported unsupported result)
  | error fault =>
    obtain ⟨first, _, failed⟩ := exists_of_mapM_eq_error looked
    cases FileDescriptor.withDialect_eq_error failed
    exact ⟨_, by rw [Schema.ofFiles, looked]; rfl⟩

namespace Request

variable {request : Request}

/-- The parameter is judged before the dialects, so a request in unsupported dialects may still be
answered. -/
theorem faulty_accepted_or_unsupported (request : Request) : (∃ fault, request.HasFault fault) ∨
    (∃ version schema, Version.ofParameter request.parameter = .ok version ∧
      Schema.ofFiles request.files = .ok schema) ∨
    ∃ version, Version.ofParameter request.parameter = .ok version ∧
      ∃ file ∈ request.files, file.dialectName ∉ [none, some "proto2", some "proto3"] := by
  by_cases supported : ∀ file ∈ request.files,
      file.dialectName ∈ [none, some "proto2", some "proto3"]
  · exact (faulty_or_accepted supported).imp_right Or.inl
  · push Not at supported
    cases parameter : Version.ofParameter request.parameter with
    | error cause => exact Or.inl ⟨_, .parameter parameter⟩
    | ok version => exact Or.inr (Or.inr ⟨version, rfl, supported⟩)

theorem answer_of_unsupported {version : Version} {file : FileDescriptor}
    (chosen : Version.ofParameter request.parameter = .ok version) (member : file ∈ request.files)
    (unsupported : file.dialectName ∉ [none, some "proto2", some "proto3"]) :
    request.answer = none := by
  obtain ⟨name, abandoned⟩ := Schema.ofFiles_unsupported member unsupported
  have run : request.output = .error (.unsupportedDialect name) := by
    rw [output, chosen, Catalog.ofFiles, abandoned]
    rfl
  rw [answer, run]

end Request

/-- An otherwise empty file in the dialect of a later year. -/
def laterDialectFile : FileDescriptor :=
  { FileDescriptor.plain "later.proto" "" [] [] [] with dialectName := some "editions" }

end FlowClients
