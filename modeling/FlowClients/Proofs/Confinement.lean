import FlowClients.Proofs.Answer
import FlowClients.Proofs.Files.Runs

/-!
Where generated files are written. Their paths are the names of the schema files but for the
extension, and they are joined to the output directory as they are. So they stay below every output
directory exactly if none of them is absolute or leads out of where it begins; then nothing outside
of the directory changes once it has been made.
-/

namespace FlowClients

open CommandLine FileTree

variable {directory : String} {files : List OutputFile} {before made : FileTree}
  {location : Location}

/-- Files under paths that stay below leave everything outside of their directory as it is. -/
theorem writeFiles_confined (staying : ∀ file ∈ files, Path.StaysBelow file.path)
    (making : (Files.makeDirectories directory : StateM FileTree _).run before = (.ok (), made))
    (change : ((writeFiles directory files : StateM FileTree _).run made).2.node? location ≠
      made.node? location) :
    Path.resolve before.workingDirectory directory <+: location := by
  have way := Files.makeDirectories_becomes making
  obtain ⟨noDirectory, node, file, member, path | ⟨rfl, _⟩⟩ :=
    (writeFiles_becomes directory files made).exists_of_node?_ne change
  · rw [← way.workingDirectory]
    rcases path.2.of_join (staying file member).relative with early | ⟨front, within, rfl⟩
    -- What is passed on the way to the directory was a directory already, so it has not changed.
    · by_cases empty : directory = ""
      · subst empty
        obtain ⟨front, nowhere, rfl⟩ := early
        rw [Path.lead_of_nowhere nowhere]
        exact List.prefix_refl _
      · have there := Files.isDirectory_of_makeDirectories empty making
        exact absurd (directory_of_passes there early) noDirectory
    · have below := Path.stays_of_prefix (staying file member).below within
      obtain ⟨deeper, led⟩ := Path.exists_lead (Path.resolve made.workingDirectory directory) [] below
      rw [List.append_nil] at led
      rw [led]
      exact List.prefix_append ..
  · rw [← way.workingDirectory]
    exact Path.staysBelow_iff.mp (staying file member) made.workingDirectory directory

/-- The files that are made from accepted schema files stay below every output directory exactly if
the paths of their modules do. Then nothing changes outside of the directory, once it has been made,
whether all can be written or not. -/
theorem output_confined_iff {files : List FileDescriptor} {schema : Schema}
    (accepted : Schema.ofFiles files = .ok schema) (version : Version) :
    ((∀ start directory, ∀ file ∈ schema.extracted.output version,
        Path.resolve start directory <+: target start directory file) ↔
      ∀ path ∈ moduleFiles files, Path.StaysBelow path) ∧
    ((∀ path ∈ moduleFiles files, Path.StaysBelow path) →
      ∀ (before : FileTree) (directory : String) (location : Location),
        let made := ((Files.makeDirectories directory : StateM FileTree _).run before).2
        let after := ((writeOutput directory (schema.extracted.output version) :
          StateM FileTree _).run before).2
        after.node? location ≠ made.node? location →
          Path.resolve before.workingDirectory directory <+: location) := by
  have output := Schema.output_paths accepted version
  have staying : (∀ file ∈ schema.extracted.output version, Path.StaysBelow file.path) ↔
      ∀ path ∈ moduleFiles files, Path.StaysBelow path := by
    have transport : Path.StaysBelow transportFile := by decide
    have named : (∀ path ∈ (schema.extracted.output version).map (·.path), Path.StaysBelow path) ↔
        ∀ file ∈ schema.extracted.output version, Path.StaysBelow file.path := List.forall_mem_map
    rw [← named, output]
    simp only [List.mem_append, List.mem_singleton, or_imp, forall_and, forall_eq, transport,
      and_true]
  constructor
  · rw [← staying]
    constructor
    · exact fun within file member => Path.staysBelow_iff.mpr fun start directory =>
        within start directory file member
    · exact fun all start directory file member =>
        Path.staysBelow_iff.mp (all file member) start directory
  · intro all before directory location
    rw [run_writeOutput]
    rcases making : (Files.makeDirectories directory : StateM FileTree _).run before
      with ⟨result, made⟩
    cases result with
    | error cause => exact fun change => absurd rfl change
    | ok nothing => exact writeFiles_confined (staying.mpr all) making

theorem output_confined_iff_hat :
    ∃ schema, Schema.ofFiles hatFiles = .ok schema ∧
      ∀ file ∈ schema.extracted.output .v5,
        ["home", "out"] <+: target ["home"] "out" file := by
  have staying : ∀ path ∈ moduleFiles hatFiles, Path.StaysBelow path := by decide
  have confined := (output_confined_iff hatFiles_accepted .v5).1.mpr staying
  exact ⟨_, hatFiles_accepted, confined ["home"] "out"⟩

/-- A file whose name leads out of where it begins. -/
def strayFiles : List FileDescriptor := [.plain "../evil.proto" "" [] [] []]

/-- The module of such a file is written beside the output directory. -/
theorem stray_file_written_outside : ∃ schema, Schema.ofFiles strayFiles = .ok schema ∧
    (¬ ∀ file ∈ schema.extracted.output .v5,
      Path.resolve ["home"] "out" <+: target ["home"] "out" file) ∧
    ∃ after paths content, (writeOutput "out" (schema.extracted.output .v5) :
        StateM FileTree _).run ⟨[(["home"], .directory)], ["home"]⟩ = (.ok paths, after) ∧
      after.node? ["home", "evil.js"] = some (.file content) := by
  refine ⟨⟨[⟨"../evil.proto", "", [], []⟩]⟩, rfl, ?_, ?_⟩
  · intro within
    have outside : ¬ ["home", "out"] <+: ["home", "evil.js"] := by decide
    exact outside (within _ List.mem_cons_self)
  · obtain ⟨first, second, output⟩ : ∃ first second,
        (Schema.extracted ⟨[⟨"../evil.proto", "", [], []⟩]⟩).output .v5 =
          [⟨"../evil.js", first⟩, ⟨"twirp.js", second⟩] := ⟨_, _, rfl⟩
    let made : List (Location × FileNode) := [(["home"], .directory), (["home", "out"], .directory)]
    let evil : Location × FileNode := (["home", "evil.js"], .file (Wire.utf8Bytes first))
    have making : (Files.makeDirectories "out" : StateM FileTree _).run
        ⟨[(["home"], .directory)], ["home"]⟩ = (.ok (), ⟨made, ["home"]⟩) := rfl
    have one : (Files.writeBelow (Path.join "out" "../evil.js") (Wire.utf8Bytes first) :
        StateM FileTree _).run ⟨made, ["home"]⟩ = (.ok (), ⟨made ++ [evil], ["home"]⟩) := rfl
    have two : (Files.writeBelow (Path.join "out" "twirp.js") (Wire.utf8Bytes second) :
        StateM FileTree _).run ⟨made ++ [evil], ["home"]⟩ = (.ok (), ⟨made ++ [evil] ++
          [(["home", "out", "twirp.js"], .file (Wire.utf8Bytes second))], ["home"]⟩) := rfl
    rw [output]
    exact ⟨_, _, _, run_writeOutput_of_ok making
      (run_writeFiles_of_ok one (run_writeFiles_of_ok two rfl)), rfl⟩

end FlowClients
