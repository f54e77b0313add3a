import FlowClients.CommandLine.Run
import FlowClients.Proofs.Files.Changes

/-!
Runs that make directories and write files, on a tree of files. Each step is opened once; what a run
changes, and what it leaves after a success, follows by going through its steps.
-/

namespace FlowClients

open FileTree

/-- What making directories for a path may change. -/
def WayTo (start : Location) (path : String) (location : Location) (node : FileNode) : Prop :=
  node = .directory ∧ Path.Passes start path location

theorem WayTo.unwritten {start location : Location} {path : String} {content : List UInt8} :
    ¬ WayTo start path location (.file content) := by
  rintro ⟨made, _⟩
  cases made

theorem WayTo.of_parent {start location : Location} {path parent : String} {node : FileNode}
    (around : Path.parent? path = some parent) (way : WayTo start parent location node) :
    WayTo start path location node := ⟨way.1, way.2.of_parent around⟩

theorem Path.passes_resolve (start : Location) (path : String) :
    Passes start path (resolve start path) := ⟨segments path, List.prefix_refl _, rfl⟩

namespace Files

variable {tree after : FileTree} {path parent : String} {content : List UInt8}

/-! ### Steps -/

theorem run_bind {α β : Type} (first : StateM FileTree α) (next : α → StateM FileTree β)
    (tree : FileTree) :
    (first >>= next).run tree = (next (first.run tree).1).run (first.run tree).2 := rfl

theorem run_attempt (change : FileTree → Except FileError FileTree) (tree : FileTree) :
    (attempt change).run tree = match change tree with
      | .ok changed => (.ok (), changed)
      | .error cause => (.error cause, tree) := by
  have got : (get : StateM FileTree FileTree).run tree = (tree, tree) := rfl
  rw [attempt, run_bind, got]
  cases change tree <;> rfl

theorem run_makeDirectory (tree : FileTree) (path : String) :
    (makeDirectory path : StateM FileTree _).run tree = match tree.makeDirectory path with
      | .ok changed => (.ok (), changed)
      | .error cause => (.error cause, tree) := run_attempt ..

theorem run_write (tree : FileTree) (path : String) (content : List UInt8) :
    (write path content : StateM FileTree _).run tree = match tree.write path content with
      | .ok changed => (.ok (), changed)
      | .error cause => (.error cause, tree) := run_attempt ..

theorem run_makeUnlessThere (tree : FileTree) (path : String) :
    (makeUnlessThere path : StateM FileTree _).run tree = match tree.makeDirectory path with
      | .ok changed => (.ok (), changed)
      | .error cause => (if tree.isDirectory path then .ok () else .error cause, tree) := by
  rw [makeUnlessThere, run_bind, run_makeDirectory]
  cases tree.makeDirectory path <;> rfl

theorem run_makeAround (fuel : Nat) (tree : FileTree) (path : String) :
    (makeAround (fuel + 1) path : StateM FileTree _).run tree =
      if path = "" then (.ok (), tree)
      else match tree.makeDirectory path with
        | .ok changed => (.ok (), changed)
        | .error .notFound =>
          match Path.parent? path with
          | none => (.error (.other "failed to create whole tree"), tree)
          | some parent =>
            match (makeAround fuel parent : StateM FileTree _).run tree with
            | (.error cause, middle) => (.error cause, middle)
            | (.ok (), middle) => (makeUnlessThere path : StateM FileTree _).run middle
        | .error cause => (if tree.isDirectory path then .ok () else .error cause, tree) := by
  rw [makeAround]
  split
  · rfl
  rw [run_bind, run_makeDirectory]
  cases tree.makeDirectory path with
  | ok changed => rfl
  | error cause =>
    cases cause with
    | notFound =>
      cases Path.parent? path with
      | none => rfl
      | some parent =>
        change StateT.run (_ >>= _) tree = _
        rw [run_bind]
        dsimp only
        rcases (makeAround fuel parent : StateM FileTree _).run tree with ⟨result, middle⟩
        cases result <;> rfl
    | _ => rfl

/-! ### Directories -/

theorem becomes_of_makeDirectory {changed : FileTree}
    (made : tree.makeDirectory path = .ok changed) :
    Becomes (WayTo tree.workingDirectory path) tree changed := by
  obtain ⟨vacant, rfl, _⟩ := makeDirectory_eq_ok made
  exact .put .same ⟨rfl, Path.passes_resolve _ _⟩ vacant

theorem makeUnlessThere_becomes (tree : FileTree) (path : String) :
    Becomes (WayTo tree.workingDirectory path) tree
      ((makeUnlessThere path : StateM FileTree _).run tree).2 := by
  rw [run_makeUnlessThere]
  split
  · exact becomes_of_makeDirectory ‹_›
  · exact .same

/-- Making directories around a path changes nothing but what the path passes. -/
theorem makeAround_becomes (fuel : Nat) (tree : FileTree) (path : String) :
    Becomes (WayTo tree.workingDirectory path) tree
      ((makeAround fuel path : StateM FileTree _).run tree).2 := by
  induction fuel generalizing path with
  | zero => exact .same
  | succ fuel ih =>
    rw [run_makeAround]
    split
    · exact .same
    split
    · exact becomes_of_makeDirectory ‹_›
    · split
      · exact .same
      · rename_i parent around
        -- One unit of fuel goes one directory up, and what the parent passes the path passes too.
        have outer := (ih parent).mono fun _ _ => WayTo.of_parent around
        split
        · rename_i run
          rwa [run] at outer
        · rename_i middle run
          rw [run] at outer
          have inner := makeUnlessThere_becomes middle path
          rw [outer.workingDirectory] at inner
          exact outer.trans inner
    · exact .same

theorem makeDirectories_becomes {result : Except FileError Unit}
    (run : (makeDirectories path : StateM FileTree _).run tree = (result, after)) :
    Becomes (WayTo tree.workingDirectory path) tree after := by
  have becomes := makeAround_becomes ((Path.segments path).length + 1) tree path
  rwa [← makeDirectories, run] at becomes

theorem isDirectory_of_makeUnlessThere
    (run : (makeUnlessThere path : StateM FileTree _).run tree = (.ok (), after)) :
    after.isDirectory path = true := by
  rw [run_makeUnlessThere] at run
  split at run
  · rename_i made
    cases run
    exact (makeDirectory_eq_ok made).2.2
  · split at run
    · cases run
      assumption
    · cases run

/-- A path that has been made is a directory, unless it is empty. -/
theorem isDirectory_of_makeDirectories (nonempty : path ≠ "")
    (run : (makeDirectories path : StateM FileTree _).run tree = (.ok (), after)) :
    after.isDirectory path = true := by
  rw [makeDirectories, run_makeAround, if_neg nonempty] at run
  split at run
  · rename_i made
    cases run
    exact (makeDirectory_eq_ok made).2.2
  · split at run
    · cases run
    · split at run
      · cases run
      · exact isDirectory_of_makeUnlessThere run
  · split at run
    · cases run
      assumption
    · cases run

/-! ### Files -/

/-- Writing a file makes directories on its way and then writes it, or fails before that. -/
theorem writeBelow_cases (tree : FileTree) (path : String) (content : List UInt8) :
    ∃ middle, Becomes (WayTo tree.workingDirectory path) tree middle ∧
      ((∃ cause, (writeBelow path content : StateM FileTree _).run tree = (.error cause, middle)) ∨
        ∃ changed, middle.write path content = .ok changed ∧
          (writeBelow path content : StateM FileTree _).run tree = (.ok (), changed)) := by
  have wrote : ∀ middle : FileTree,
      (∃ cause, (write path content : StateM FileTree _).run middle = (.error cause, middle)) ∨
        ∃ changed, middle.write path content = .ok changed ∧
          (write path content : StateM FileTree _).run middle = (.ok (), changed) := by
    intro middle
    rw [run_write]
    cases middle.write path content with
    | ok changed => exact Or.inr ⟨changed, rfl, rfl⟩
    | error cause => exact Or.inl ⟨cause, rfl⟩
  rw [writeBelow]
  cases around : Path.parent? path with
  | none => exact ⟨tree, .same, wrote tree⟩
  | some parent =>
    rcases ran : (makeDirectories parent : StateM FileTree _).run tree with ⟨result, middle⟩
    refine ⟨middle, (makeDirectories_becomes ran).mono fun _ _ => WayTo.of_parent around, ?_⟩
    cases result with
    | error cause =>
      refine Or.inl ⟨cause, ?_⟩
      dsimp only
      rw [run_bind, ran]
      rfl
    | ok made =>
      dsimp only
      rw [run_bind, ran]
      exact wrote middle

end Files

namespace CommandLine

variable {tree after : FileTree} {directory : String} {files rest : List OutputFile}
  {file : OutputFile} {paths : List String}

/-- Where a file is written below a directory. -/
def target (start : Location) (directory : String) (file : OutputFile) : Location :=
  Path.resolve start (Path.join directory file.path)

/-- What writing files below a directory may change. -/
def MayWrite (start : Location) (directory : String) (files : List OutputFile)
    (location : Location) (node : FileNode) : Prop :=
  ∃ file ∈ files, WayTo start (Path.join directory file.path) location node ∨
    location = target start directory file ∧ node = .file (Wire.utf8Bytes file.text)

/-! ### Steps -/

theorem run_writeFiles (directory : String) (file : OutputFile) (rest : List OutputFile)
    (tree : FileTree) : (writeFiles directory (file :: rest) : StateM FileTree _).run tree =
      match (Files.writeBelow (Path.join directory file.path) (Wire.utf8Bytes file.text) :
        StateM FileTree _).run tree with
      | (.error cause, middle) => (.error cause, middle)
      | (.ok (), middle) =>
        let (result, after) := (writeFiles directory rest : StateM FileTree _).run middle
        (result.map (Path.join directory file.path :: ·), after) := by
  rw [writeFiles, Files.run_bind]
  rcases (Files.writeBelow (Path.join directory file.path) (Wire.utf8Bytes file.text) :
    StateM FileTree _).run tree with ⟨result, middle⟩
  cases result with
  | error cause => rfl
  | ok made =>
    dsimp only
    rw [Files.run_bind]
    rcases (writeFiles directory rest : StateM FileTree _).run middle with ⟨result, after⟩
    cases result <;> rfl

theorem run_writeOutput (directory : String) (files : List OutputFile) (tree : FileTree) :
    (writeOutput directory files : StateM FileTree _).run tree =
      match (Files.makeDirectories directory : StateM FileTree _).run tree with
      | (.error cause, middle) => (.error cause, middle)
      | (.ok (), middle) => (writeFiles directory files : StateM FileTree _).run middle := by
  rw [writeOutput, Files.run_bind]
  rcases (Files.makeDirectories directory : StateM FileTree _).run tree with ⟨result, middle⟩
  cases result <;> rfl

theorem run_writeFiles_of_ok {middle : FileTree}
    (one : (Files.writeBelow (Path.join directory file.path) (Wire.utf8Bytes file.text) :
      StateM FileTree _).run tree = (.ok (), middle))
    (others : (writeFiles directory rest : StateM FileTree _).run middle = (.ok paths, after)) :
    (writeFiles directory (file :: rest) : StateM FileTree _).run tree =
      (.ok (Path.join directory file.path :: paths), after) := by
  rw [run_writeFiles, one]
  dsimp only
  rw [others]
  rfl

theorem run_writeOutput_of_ok {made : FileTree}
    (making : (Files.makeDirectories directory : StateM FileTree _).run tree = (.ok (), made))
    (writing : (writeFiles directory files : StateM FileTree _).run made = (.ok paths, after)) :
    (writeOutput directory files : StateM FileTree _).run tree = (.ok paths, after) := by
  rw [run_writeOutput, making]
  exact writing

/-- One file, then the others: the run ends on the way to the file, or writes it and goes on. -/
theorem writeFiles_cases (directory : String) (file : OutputFile) (rest : List OutputFile)
    (tree : FileTree) : ∃ middle,
      Becomes (WayTo tree.workingDirectory (Path.join directory file.path)) tree middle ∧
      ((∃ cause, (writeFiles directory (file :: rest) : StateM FileTree _).run tree =
          (.error cause, middle)) ∨
        ∃ changed result after,
          middle.write (Path.join directory file.path) (Wire.utf8Bytes file.text) = .ok changed ∧
          (writeFiles directory rest : StateM FileTree _).run changed = (result, after) ∧
          (writeFiles directory (file :: rest) : StateM FileTree _).run tree =
            (result.map (Path.join directory file.path :: ·), after)) := by
  rw [run_writeFiles]
  obtain ⟨middle, becomes, outcome⟩ :=
    Files.writeBelow_cases tree (Path.join directory file.path) (Wire.utf8Bytes file.text)
  refine ⟨middle, becomes, ?_⟩
  rcases outcome with ⟨cause, run⟩ | ⟨changed, written, run⟩
  · exact Or.inl ⟨cause, by rw [run]⟩
  · exact Or.inr ⟨changed, _, _, written, rfl, by rw [run]; rfl⟩

theorem MayWrite.cons {start location : Location} {node : FileNode}
    (may : MayWrite start directory rest location node) :
    MayWrite start directory (file :: rest) location node := by
  obtain ⟨later, member, how⟩ := may
  exact ⟨later, List.mem_cons_of_mem file member, how⟩

/-- Writing files changes nothing but where their paths lead and what they pass. -/
theorem writeFiles_becomes (directory : String) (files : List OutputFile) (tree : FileTree) :
    Becomes (MayWrite tree.workingDirectory directory files) tree
      ((writeFiles directory files : StateM FileTree _).run tree).2 := by
  induction files generalizing tree with
  | nil => exact .same
  | cons file rest ih =>
    obtain ⟨middle, way, outcome⟩ := writeFiles_cases directory file rest tree
    have first : Becomes (MayWrite tree.workingDirectory directory (file :: rest)) tree middle :=
      way.mono fun _ _ way => ⟨file, List.mem_cons_self, Or.inl way⟩
    rcases outcome with ⟨cause, run⟩ | ⟨changed, result, after, written, later, run⟩
    · rwa [run]
    · obtain ⟨_, vacant, rfl⟩ := write_eq_ok written
      have second := first.put ⟨file, List.mem_cons_self, Or.inr ⟨rfl, rfl⟩⟩
        (way.workingDirectory ▸ vacant)
      have third := ih (middle.put (Path.resolve middle.workingDirectory
        (Path.join directory file.path)) (.file (Wire.utf8Bytes file.text)))
      rw [later] at third
      rw [run]
      rw [← way.workingDirectory] at second ⊢
      exact second.trans (third.mono fun _ _ may => may.cons)

/-- What is known after all files have been written below a directory: they are all there, and no
other file has come or gone. -/
structure Wrote (start : Location) (directory : String) (files : List OutputFile)
    (before after : FileTree) : Prop where
  file_mem_iff : ∀ location content, (location, .file content) ∈ after.nodes ↔
    (∃ file ∈ files, location = target start directory file ∧
      content = Wire.utf8Bytes file.text) ∨
    (location, .file content) ∈ before.nodes ∧
      ∀ file ∈ files, location ≠ target start directory file
  read_eq_ok : ∀ file ∈ files,
    after.read (Path.join directory file.path) = .ok (Wire.utf8Bytes file.text)

section Cons

variable {middle changed : FileTree}
  (way : Becomes (WayTo tree.workingDirectory (Path.join directory file.path)) tree middle)
  (written : middle.write (Path.join directory file.path) (Wire.utf8Bytes file.text) = .ok changed)
  (alone : ∀ other ∈ rest,
    target tree.workingDirectory directory file ≠ target tree.workingDirectory directory other)

include way written

theorem eq_put_target : changed = middle.put (target tree.workingDirectory directory file)
    (.file (Wire.utf8Bytes file.text)) := by
  rw [target, ← way.workingDirectory]
  exact (write_eq_ok written).2.2

theorem workingDirectory_of_write : changed.workingDirectory = tree.workingDirectory := by
  rw [eq_put_target way written]
  exact way.workingDirectory

include alone

/-- A file is read again after others have been written elsewhere. -/
theorem read_of_write
    (later : Becomes (MayWrite tree.workingDirectory directory rest) changed after) :
    after.read (Path.join directory file.path) = .ok (Wire.utf8Bytes file.text) := by
  obtain ⟨located, vacant, _⟩ := write_eq_ok written
  have target_eq : Path.resolve middle.workingDirectory (Path.join directory file.path) =
      target tree.workingDirectory directory file := by
    rw [target, way.workingDirectory]
  rw [target_eq] at located vacant
  have put := eq_put_target way written
  have becomes : Becomes (fun _ _ => True) middle changed := put ▸ .put .same trivial vacant
  have there : changed.node? (target tree.workingDirectory directory file) =
      some (.file (Wire.utf8Bytes file.text)) := by
    rw [put, node?_put, if_pos rfl]
    refine if_neg fun root => vacant ?_
    rw [root]
    rfl
  have unwritten : ∀ content, ¬ MayWrite tree.workingDirectory directory rest
      (target tree.workingDirectory directory file) (.file content) := by
    rintro content ⟨other, member, way | ⟨same, _⟩⟩
    · exact WayTo.unwritten way
    · exact alone other member same
  exact read_eq_ok (later.follow_eq_ok (becomes.follow_eq_ok located))
    (later.node?_eq_some there (Or.inr unwritten))

theorem Wrote.cons
    (later : Becomes (MayWrite tree.workingDirectory directory rest) changed after)
    (others : Wrote tree.workingDirectory directory rest changed after) :
    Wrote tree.workingDirectory directory (file :: rest) tree after where
  file_mem_iff location content := by
    rw [others.file_mem_iff, eq_put_target way written, mem_nodes_put,
      way.file_mem_iff fun _ => WayTo.unwritten, FileNode.file.injEq]
    simp only [List.mem_cons, exists_eq_or_imp, forall_eq_or_imp]
    constructor
    · rintro (rest | ⟨⟨member, other⟩ | written, elsewhere⟩)
      · exact Or.inl (Or.inr rest)
      · exact Or.inr ⟨member, other, elsewhere⟩
      · exact Or.inl (Or.inl written)
    · rintro ((written | rest) | ⟨member, other, elsewhere⟩)
      · exact Or.inr ⟨Or.inr written, fun other member => written.1 ▸ alone other member⟩
      · exact Or.inl rest
      · exact Or.inr ⟨Or.inl ⟨member, other⟩, elsewhere⟩
  read_eq_ok other member := by
    rcases List.mem_cons.mp member with rfl | member
    · exact read_of_write way written alone later
    · exact others.read_eq_ok other member

end Cons

/-- Files with targets apart from each other are all there once they have been written. -/
theorem wrote_of_writeFiles
    (apart : (files.map (target tree.workingDirectory directory)).Nodup)
    (run : (writeFiles directory files : StateM FileTree _).run tree = (.ok paths, after)) :
    Wrote tree.workingDirectory directory files tree after := by
  induction files generalizing tree paths with
  | nil =>
    cases run
    constructor <;> simp
  | cons file rest ih =>
    obtain ⟨middle, way, outcome⟩ := writeFiles_cases directory file rest tree
    rcases outcome with ⟨cause, failed⟩ | ⟨changed, result, final, written, later, ran⟩
    · cases failed.symm.trans run
    rw [List.map_cons, List.nodup_cons] at apart
    have alone : ∀ other ∈ rest,
        target tree.workingDirectory directory file ≠ target tree.workingDirectory directory other :=
      fun other member same => apart.1 (List.mem_map.mpr ⟨other, member, same.symm⟩)
    -- The rest is written in a changed tree, but seen from the same working directory.
    have same := workingDirectory_of_write way written
    have becomes := writeFiles_becomes directory rest changed
    rw [later, same] at becomes
    cases result with
    | error cause => cases ran.symm.trans run
    | ok others =>
      cases ran.symm.trans run
      have wrote := ih (same.symm ▸ apart.2) later
      rw [same] at wrote
      exact wrote.cons way written alone becomes

end CommandLine

end FlowClients
