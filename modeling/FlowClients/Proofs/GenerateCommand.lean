import FlowClients.Proofs.Answer
import FlowClients.Proofs.Arguments
import FlowClients.Proofs.Files.Runs

/-!
The command that writes files below a directory, beside the answer to a request with the same schema
files. Both read a version and take the files through the same stages, and what is then found below
a directory that was empty is the answer, file by file. Files that the pool turns away end both with
the same failure, before anything is written.
-/

namespace FlowClients

open FileTree

/-! ### Below a location -/

theorem FileTree.mem_below_iff {tree : FileTree} {top names : Location} {node : FileNode} :
    (names, node) ∈ tree.below top ↔ names ≠ [] ∧ (top ++ names, node) ∈ tree.nodes := by
  unfold FileTree.below
  rw [List.mem_filterMap]
  constructor
  · rintro ⟨⟨location, value⟩, member, found⟩
    dsimp only at found
    split at found
    · rename_i name rest front
      cases found
      rw [List.isPrefixOf?_eq_some_iff_append_eq] at front
      exact ⟨List.cons_ne_nil _ _, front ▸ member⟩
    · cases found
  · rintro ⟨inside, member⟩
    obtain ⟨name, rest, rfl⟩ := List.exists_cons_of_ne_nil inside
    refine ⟨_, member, ?_⟩
    have front : top.isPrefixOf? (top ++ name :: rest) = some (name :: rest) :=
      List.isPrefixOf?_eq_some_iff_append_eq.mpr rfl
    dsimp only
    rw [front]

/-- The files below a location are the given ones, each under its path and with its text. -/
def FileTree.HoldsExactly (tree : FileTree) (top : Location) (files : List OutputFile) : Prop :=
  ∀ names content, (names, .file content) ∈ tree.below top ↔
    ∃ file ∈ files, names = Path.segments file.path ∧ content = Wire.utf8Bytes file.text

namespace CommandLine

/-! ### Steps of the command -/

theorem run_readCatalog {tree : FileTree} {path : String} {bytes : List UInt8}
    {files : List FileDescriptor} (present : tree.read path = .ok bytes)
    (decoded : DescriptorSet.read bytes = .ok files) :
    (readCatalog path : StateM FileTree _).run tree = (Catalog.ofFiles files, tree) := by
  have read : (Files.read path : StateM FileTree _).run tree = (.ok bytes, tree) := by
    rw [← present]
    rfl
  rw [readCatalog, Files.run_bind, read]
  dsimp only
  rw [decoded]
  rfl

theorem Outcome.ofFault_exitCode (messages : List String) (fault : Fault) :
    (Outcome.ofFault messages fault).exitCode ≠ 0 := by
  cases fault <;> exact Nat.succ_ne_zero _

section Generate

variable {arguments : List String} {path directory : String} {version : Version}
  {before after : FileTree} {bytes : List UInt8} {files : List FileDescriptor} {outcome : Outcome}
  (command : Command.ofArguments arguments = .ok (.generate path directory version))
  (present : before.read path = .ok bytes) (decoded : DescriptorSet.read bytes = .ok files)
  (input : StateM FileTree (List UInt8))

include command present decoded

/-- The command takes the files and then writes their output, or ends with the fault that is met. -/
theorem run_generate : (run arguments input).run before =
    match Catalog.ofFiles files with
    | .error fault => (.ofFault (readingLines path) fault, before)
    | .ok catalog =>
      match (writeOutput directory (catalog.output version) : StateM FileTree _).run before with
      | (.error cause, after) =>
        (.ofFault (readingLines path ++ [writingLine version]) (.failed (.unwritable cause)), after)
      | (.ok paths, after) =>
        (.ofMessages 0 (readingLines path ++ [writingLine version] ++
          ["", "✓ Generation complete!", "", "Generated files:"] ++
          paths.flatMap fun path => textLines ("  " ++ path)), after) := by
  rw [run, command]
  dsimp only
  rw [runGenerate, Files.run_bind, run_readCatalog present decoded]
  cases Catalog.ofFiles files with
  | error fault => rfl
  | ok catalog =>
    dsimp only
    rw [Files.run_bind]
    rcases (writeOutput directory (catalog.output version) : StateM FileTree _).run before
      with ⟨result, after⟩
    cases result <;> rfl

/-- A successful command has taken the files, made the directory and written everything. -/
theorem exists_of_run_generate (ran : (run arguments input).run before = (outcome, after))
    (succeeded : outcome.exitCode = 0) : ∃ catalog made paths,
      Catalog.ofFiles files = .ok catalog ∧
      (Files.makeDirectories directory : StateM FileTree _).run before = (.ok (), made) ∧
      (writeFiles directory (catalog.output version) : StateM FileTree _).run made =
        (.ok paths, after) := by
  rw [run_generate command present decoded] at ran
  split at ran
  · cases ran
    exact absurd succeeded (Outcome.ofFault_exitCode _ _)
  rename_i catalog taken
  split at ran
  · cases ran
    exact absurd succeeded (Outcome.ofFault_exitCode _ _)
  · rename_i paths written writing
    cases ran
    rw [run_writeOutput] at writing
    split at writing
    · cases writing
    · rename_i made making
      exact ⟨catalog, made, paths, taken, making, writing⟩

end Generate

/-! ### The directory and the answer -/

theorem targets_nodup {start : Location} {directory : String} {files : List OutputFile}
    (apart : (files.map (·.path)).Nodup) (proper : ∀ file ∈ files, Path.Proper file.path) :
    (files.map (target start directory)).Nodup := by
  refine (List.Nodup.of_map _ apart).map_on fun a first b second same => ?_
  have one := proper a first
  have two := proper b second
  rw [target, target, one.resolve_join, two.resolve_join, List.append_cancel_left_eq,
    Path.segments_inj one.relative two.relative] at same
  exact List.inj_on_of_nodup_map apart first second same

/-- Files under proper paths apart from each other, written below a directory where nothing was, are
all that is found there. -/
theorem holdsExactly_of_writeFiles {before made after : FileTree} {directory : String}
    {files : List OutputFile} {paths : List String}
    (apart : (files.map (·.path)).Nodup) (proper : ∀ file ∈ files, Path.Proper file.path)
    (vacant : before.below (Path.resolve before.workingDirectory directory) = [])
    (making : (Files.makeDirectories directory : StateM FileTree _).run before = (.ok (), made))
    (writing : (writeFiles directory files : StateM FileTree _).run made = (.ok paths, after)) :
    after.HoldsExactly (Path.resolve before.workingDirectory directory) files ∧
      ∀ file ∈ files,
        after.read (Path.join directory file.path) = .ok (Wire.utf8Bytes file.text) := by
  have way := Files.makeDirectories_becomes making
  have wrote := wrote_of_writeFiles (targets_nodup apart proper) writing
  rw [way.workingDirectory] at wrote
  refine ⟨fun names content => ?_, wrote.read_eq_ok⟩
  -- Making the directory adds no file, so every file below it has been written since.
  have nothing : names ≠ [] →
      (Path.resolve before.workingDirectory directory ++ names, .file content) ∉ made.nodes := by
    intro inside member
    rw [way.file_mem_iff fun _ => WayTo.unwritten] at member
    have below := mem_below_iff.mpr ⟨inside, member⟩
    rw [vacant] at below
    cases below
  rw [mem_below_iff, wrote.file_mem_iff]
  constructor
  · rintro ⟨inside, ⟨file, member, same, text⟩ | ⟨member, _⟩⟩
    · rw [target, (proper file member).resolve_join, List.append_cancel_left_eq] at same
      exact ⟨file, member, same, text⟩
    · exact absurd member (nothing inside)
  · rintro ⟨file, member, rfl, text⟩
    refine ⟨Path.segments_ne_nil _, Or.inl ⟨file, member, ?_, text⟩⟩
    rw [target, (proper file member).resolve_join]

/-- The parameter of a request that asks for a version. -/
def versionParameter (version : Version) : String := "version=" ++ version.name

theorem ofParameter_version (version : Version) :
    Version.ofParameter (some (versionParameter version)) = .ok version := by
  cases version <;> rfl

end CommandLine

open CommandLine

/-- The command on an encoded set of schema files beside the request with the same files and
version. If the command succeeds then the answer has no error, and the files below the directory,
where nothing was before, are those of the answer. If the pool turns the files away then both fail
for its cause, and nothing is written. -/
theorem generate_agrees_with_answer {arguments : List String} {path directory : String}
    {version : Version} {before : FileTree} {bytes : List UInt8} {files : List FileDescriptor}
    (command : Command.ofArguments arguments = .ok (.generate path directory version))
    (present : before.read path = .ok bytes) (decoded : DescriptorSet.read bytes = .ok files)
    (apart : (moduleFiles files ++ [transportFile]).Nodup)
    (proper : ∀ file ∈ moduleFiles files, Path.Proper file)
    (vacant : before.below (Path.resolve before.workingDirectory directory) = [])
    (input : StateM FileTree (List UInt8)) (wanted : List String) :
    let request : Request := ⟨wanted, some (versionParameter version), files⟩
    let (outcome, after) := (run arguments input).run before
    (outcome.exitCode = 0 → ∃ response, request.answer = some response ∧ response.error = none ∧
      after.HoldsExactly (Path.resolve before.workingDirectory directory) response.files ∧
      ∀ file ∈ response.files,
        after.read (Path.join directory file.path) = .ok (Wire.utf8Bytes file.text)) ∧
    ∀ cause, PoolRejects files cause →
      outcome = .ofFault (readingLines path) (.failed (.rejected cause)) ∧
        request.answer = some ⟨some (Failure.rejected cause).message, []⟩ ∧ after = before := by
  intro request
  rcases ran : (run arguments input).run before with ⟨outcome, after⟩
  have chosen : Version.ofParameter request.parameter = .ok version := ofParameter_version version
  constructor
  · intro succeeded
    obtain ⟨catalog, made, paths, taken, making, writing⟩ :=
      exists_of_run_generate command present decoded input ran succeeded
    obtain ⟨schema, accepted, _⟩ := bind_eq_ok.mp taken
    cases taken.symm.trans (Catalog.ofFiles_eq_ok accepted)
    have output := Schema.output_paths accepted version
    have known : ∀ file ∈ schema.extracted.output version, Path.Proper file.path := by
      intro file member
      have named := List.mem_map_of_mem (f := (·.path)) member
      rw [output, List.mem_append, List.mem_singleton] at named
      rcases named with module | transport
      · exact proper _ module
      · rw [transport]
        decide
    exact ⟨_, Request.answer_of_accepted chosen accepted, rfl,
      holdsExactly_of_writeFiles (output ▸ apart) known vacant making writing⟩
  · intro cause rejects
    have failed : Catalog.ofFiles files = .error (.failed (.rejected cause)) := by
      rw [Catalog.ofFiles, rejects.ofFiles_eq_error]
      rfl
    rw [run_generate command present decoded, failed] at ran
    cases ran
    exact ⟨rfl, (Request.HasFault.files chosen rejects).answer_eq, rfl⟩

/-! ### A file below a directory of its own -/

namespace CommandLine

def shopFiles : List FileDescriptor := [.plain "shop/a.proto" "" [] [] []]

/-- A file that depends on one that is not there. -/
def loneFiles : List FileDescriptor := [.plain "b.proto" "" ["gone.proto"] [] []]

def shopBytes : List UInt8 :=
  [10, 14, 10, 12, 115, 104, 111, 112, 47, 97, 46, 112, 114, 111, 116, 111]

def loneBytes : List UInt8 :=
  [10, 21, 10, 7, 98, 46, 112, 114, 111, 116, 111,
    26, 10, 103, 111, 110, 101, 46, 112, 114, 111, 116, 111]

/-- A place where both sets are found in binary form. -/
def homeTree : FileTree where
  nodes := [(["home"], .directory), (["home", "shop.pb"], .file shopBytes),
    (["home", "lone.pb"], .file loneBytes)]
  workingDirectory := ["home"]

/-- The place once the directory has been made, with what has been written below it since. -/
def homeTree.written (rest : List (Location × FileNode)) : FileTree :=
  { homeTree with nodes := homeTree.nodes ++ (["home", "out"], .directory) :: rest }

theorem read_shopBytes : DescriptorSet.read shopBytes = .ok shopFiles := by
  have record : Wire.readRecord .fileSet shopBytes =
      .ok [(1, .record [(1, .text "shop/a.proto")])] := rfl
  rw [DescriptorSet.read, record]
  simp [filesOfRecord, Wire.Record.records, FileDescriptor.ofRecord, messageTrees,
    Wire.Record.text, Wire.Record.text?, Wire.Record.texts, Wire.Record.ints,
    Wire.Record.numbers, shopFiles, FileDescriptor.plain]

theorem read_loneBytes : DescriptorSet.read loneBytes = .ok loneFiles := by
  have record : Wire.readRecord .fileSet loneBytes =
      .ok [(1, .record [(1, .text "b.proto"), (3, .text "gone.proto")])] := rfl
  rw [DescriptorSet.read, record]
  simp [filesOfRecord, Wire.Record.records, FileDescriptor.ofRecord, messageTrees,
    Wire.Record.text, Wire.Record.text?, Wire.Record.texts, Wire.Record.ints,
    Wire.Record.numbers, loneFiles, FileDescriptor.plain]

theorem homeTree_write (first second : String) : ∃ paths after,
    (writeOutput "out" [⟨"shop/a.js", first⟩, ⟨"twirp.js", second⟩] : StateM FileTree _).run
      homeTree = (.ok paths, after) := by
  let shop : List (Location × FileNode) :=
    [(["home", "out", "shop"], .directory),
      (["home", "out", "shop", "a.js"], .file (Wire.utf8Bytes first))]
  have making : (Files.makeDirectories "out" : StateM FileTree _).run homeTree =
      (.ok (), homeTree.written []) := rfl
  have one : (Files.writeBelow (Path.join "out" "shop/a.js") (Wire.utf8Bytes first) :
      StateM FileTree _).run (homeTree.written []) = (.ok (), homeTree.written shop) := rfl
  have two : (Files.writeBelow (Path.join "out" "twirp.js") (Wire.utf8Bytes second) :
      StateM FileTree _).run (homeTree.written shop) = (.ok (), homeTree.written
        (shop ++ [(["home", "out", "twirp.js"], .file (Wire.utf8Bytes second))])) := rfl
  exact ⟨_, _, run_writeOutput_of_ok making
    (run_writeFiles_of_ok one (run_writeFiles_of_ok two rfl))⟩

end CommandLine

theorem generate_agrees_with_answer_shop :
    (∃ outcome after response,
      (run (generateArguments "shop.pb" "out" .v6) (pure []) : StateM FileTree _).run homeTree =
        (outcome, after) ∧ outcome.exitCode = 0 ∧
      (Request.mk [] (some (versionParameter .v6)) shopFiles).answer = some response ∧
      response.files.map (·.path) = ["shop/a.js", "twirp.js"] ∧
      after.HoldsExactly ["home", "out"] response.files) ∧
    ∃ cause outcome,
      (run (generateArguments "lone.pb" "out" .v5) (pure []) : StateM FileTree _).run homeTree =
        (outcome, homeTree) ∧ outcome.exitCode = 1 ∧
      (Request.mk [] (some (versionParameter .v5)) loneFiles).answer =
        some ⟨some (Failure.rejected cause).message, []⟩ := by
  constructor
  · have command := ofArguments_generate (by decide : "shop.pb" ≠ "") (by decide : "out" ≠ "") .v6
    have present : homeTree.read "shop.pb" = .ok shopBytes := rfl
    have accepted : Schema.ofFiles shopFiles = .ok ⟨[⟨"shop/a.proto", "", [], []⟩]⟩ := rfl
    have ran := run_generate command present read_shopBytes (pure [])
    obtain ⟨first, second, output⟩ : ∃ first second,
        (Schema.extracted ⟨[⟨"shop/a.proto", "", [], []⟩]⟩).output .v6 =
          [⟨"shop/a.js", first⟩, ⟨"twirp.js", second⟩] := ⟨_, _, rfl⟩
    obtain ⟨_, after, writing⟩ := homeTree_write first second
    rw [Catalog.ofFiles_eq_ok accepted] at ran
    dsimp only at ran
    rw [output, writing] at ran
    have known := generate_agrees_with_answer command present read_shopBytes
      (by decide) (by decide) rfl (pure []) []
    rw [ran] at known
    obtain ⟨response, answered, _, exactly, _⟩ := known.1 rfl
    cases answered.symm.trans (Request.answer_of_accepted (ofParameter_version .v6) accepted)
    exact ⟨_, after, _, ran, rfl, answered, rfl, exactly⟩
  · have command := ofArguments_generate (by decide : "lone.pb" ≠ "") (by decide : "out" ≠ "") .v5
    have present : homeTree.read "lone.pb" = .ok loneBytes := rfl
    have rejects : PoolRejects loneFiles (.importNotAdded "gone.proto") :=
      ⟨_, rfl, Or.inr ⟨_, rfl, rfl⟩⟩
    have known := generate_agrees_with_answer command present read_loneBytes
      (by decide) (by decide) rfl (pure []) []
    rcases ran : (run (generateArguments "lone.pb" "out" .v5) (pure []) : StateM FileTree _).run
      homeTree with ⟨outcome, after⟩
    rw [ran] at known
    obtain ⟨rfl, answered, rfl⟩ := known.2 _ rejects
    exact ⟨_, _, rfl, rfl, answered⟩

end FlowClients
