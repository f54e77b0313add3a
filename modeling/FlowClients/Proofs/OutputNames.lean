import FlowClients.Proofs.Answer

/-!
The names of generated files. Schema files have different names, but their modules need not: two
files whose names differ in the extension only, or a file named like the transport module, end up
under one name. Otherwise no generated file overwrites another.
-/

namespace FlowClients

/-- The name of a schema file whose module is called `stem`: the stem with one of the two extensions
of schema files, or the stem alone if it ends in neither. -/
def NamedAfter (stem name : String) : Prop :=
  name = stem ++ ".proto" ∨ name = stem ++ ".protodevel" ∨
    name = stem ∧ ¬ ".proto".toList <:+ name.toList ∧ ¬ ".protodevel".toList <:+ name.toList

instance (stem name : String) : Decidable (NamedAfter stem name) :=
  inferInstanceAs (Decidable (_ ∨ _))

/-- The names of the files that modules are made from. -/
def clientNames (files : List FileDescriptor) : List String :=
  (files.map (·.name)).filter (· ≠ timestampFile)

theorem moduleFile_eq_iff {name stem : String} :
    moduleFile name = stem ++ moduleExtension ↔ NamedAfter stem name := by
  have endings : ∀ a b : String, a ++ ".proto" ≠ b ++ ".protodevel" := by
    intro a b same
    have last := congrArg (·.toList.getLast?) same
    simp at last
  unfold moduleFile NamedAfter
  rw [String.append_left_inj, ← beforeEnding?_eq_none, ← beforeEnding?_eq_none]
  cases first : beforeEnding? ".proto" name with
  | some inner =>
    change inner = stem ↔ _
    rw [beforeEnding?_eq_some.mp first, String.append_left_inj]
    simp only [endings inner stem, reduceCtorEq, false_and, and_false, or_false]
  | none =>
    have noProto : name ≠ stem ++ ".proto" := fun same => by
      rw [beforeEnding?_eq_some.mpr same] at first
      cases first
    cases second : beforeEnding? ".protodevel" name with
    | some inner =>
      change inner = stem ↔ _
      rw [or_iff_right noProto, beforeEnding?_eq_some.mp second, String.append_left_inj]
      simp only [reduceCtorEq, and_false, or_false]
    | none =>
      have noProtodevel : name ≠ stem ++ ".protodevel" := fun same => by
        rw [beforeEnding?_eq_some.mpr same] at second
        cases second
      change name = stem ↔ _
      simp only [noProto, noProtodevel, and_self, and_true, false_or]

theorem exists_namedAfter (name : String) : ∃ stem, NamedAfter stem name :=
  ⟨_, moduleFile_eq_iff.mp rfl⟩

theorem moduleFile_inj {a b : String} :
    moduleFile a = moduleFile b ↔ ∃ stem, NamedAfter stem a ∧ NamedAfter stem b := by
  constructor
  · intro same
    obtain ⟨stem, named⟩ := exists_namedAfter a
    exact ⟨stem, named, moduleFile_eq_iff.mp (same ▸ moduleFile_eq_iff.mpr named)⟩
  · rintro ⟨stem, first, second⟩
    rw [moduleFile_eq_iff.mpr first, moduleFile_eq_iff.mpr second]

theorem moduleFiles_eq_map (files : List FileDescriptor) :
    moduleFiles files = (clientNames files).map moduleFile := by
  rw [moduleFiles, clientNames, List.filter_map, List.map_map]
  rfl

theorem Accepted.clientNames_nodup {files : List FileDescriptor} {names : Pool.Names}
    {schema : Schema} (accepted : Accepted files names schema) : (clientNames files).Nodup :=
  accepted.distinct_descriptors.filter _

/-- The files of an answer without an error have pairwise different names exactly if no two schema
files are named after one stem and none is named after the stem of the transport module. -/
theorem output_paths_nodup_iff {request : Request} {response : Response}
    (answered : request.answer = some response) (succeeded : response.error = none) :
    (response.files.map (·.path)).Nodup ↔
      (∀ stem, ∀ a ∈ clientNames request.files, ∀ b ∈ clientNames request.files,
        NamedAfter stem a → NamedAfter stem b → a = b) ∧
      ∀ a ∈ clientNames request.files, ¬ NamedAfter "twirp" a := by
  obtain ⟨version, schema, accepted, files⟩ := Request.accepted_of_answer answered succeeded
  obtain ⟨names, known⟩ := Schema.ofFiles_accepted accepted
  have transport : transportFile = "twirp" ++ moduleExtension := by decide
  rw [files, Schema.output_paths accepted, moduleFiles_eq_map, ← List.concat_eq_append,
    List.nodup_concat, List.nodup_map_iff_inj_on known.clientNames_nodup, and_comm]
  refine and_congr ?_ ?_
  · simp only [moduleFile_inj]
    constructor
    · exact fun apart stem a first b second one two => apart a first b second ⟨stem, one, two⟩
    · rintro apart a first b second ⟨stem, one, two⟩
      exact apart stem a first b second one two
  · rw [transport, List.mem_map]
    constructor
    · exact fun free a member named => free ⟨a, member, moduleFile_eq_iff.mpr named⟩
    · rintro free ⟨a, member, same⟩
      exact free a member (moduleFile_eq_iff.mp same)

theorem output_paths_nodup_iff_hat :
    ∃ response, hatRequest.answer = some response ∧ response.error = none ∧
      (response.files.map (·.path)).Nodup := by
  have chosen : Version.ofParameter hatRequest.parameter = .ok .v6 := rfl
  have answered := Request.answer_of_accepted chosen hatFiles_accepted
  have apart : ∀ a ∈ clientNames hatFiles, ∀ b ∈ clientNames hatFiles,
      moduleFile a = moduleFile b → a = b := by decide
  refine ⟨_, answered, rfl, (output_paths_nodup_iff answered rfl).mpr ⟨?_, by decide⟩⟩
  intro stem a first b second one two
  exact apart a first b second (moduleFile_inj.mpr ⟨stem, one, two⟩)

/-- Two files whose names differ in the extension only. -/
def overlappingFiles : List FileDescriptor :=
  [.plain "a.proto" "" [] [] [], .plain "a.protodevel" "" [] [] []]

/-- A file whose module is named like the transport module. -/
def transportNamesake : List FileDescriptor := [.plain "twirp.proto" "" [] [] []]

theorem output_paths_overlap :
    (∃ response, (Request.mk [] none overlappingFiles).answer = some response ∧
      response.error = none ∧ ¬ (response.files.map (·.path)).Nodup) ∧
    ∃ response, (Request.mk [] none transportNamesake).answer = some response ∧
      response.error = none ∧ ¬ (response.files.map (·.path)).Nodup := by
  have first : Schema.ofFiles overlappingFiles =
      .ok ⟨[⟨"a.proto", "", [], []⟩, ⟨"a.protodevel", "", [], []⟩]⟩ := rfl
  have second : Schema.ofFiles transportNamesake = .ok ⟨[⟨"twirp.proto", "", [], []⟩]⟩ := rfl
  refine ⟨⟨_, Request.answer_of_accepted rfl first, rfl, ?_⟩,
    ⟨_, Request.answer_of_accepted rfl second, rfl, ?_⟩⟩
  · rw [Schema.output_paths first]
    decide
  · rw [Schema.output_paths second]
    decide

end FlowClients
