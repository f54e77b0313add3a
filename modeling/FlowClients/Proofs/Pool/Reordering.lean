import FlowClients.Proofs.Accepted

/-!
The order of files. A package belongs to the file that opens it first, and everything else about the
names of accepted files is the same in every order of the files: which definitions there are, which
names enclose others and which files are visible. A reference leads to the same definition then.
-/

namespace FlowClients

namespace Pool

/-! ### Packages -/

/-- The packages that an element opens. -/
def Element.packages (file : FileDescriptor) (element : Element) : List String :=
  match element.declaration with
  | .file => packageNames file.package
  | _ => []

def openedPackages (file : FileDescriptor) : List String :=
  (fileElements file).flatMap (·.packages file)

/-- The packages among the definitions so far have the given names. -/
def Names.Opens (names : Names) (packages : List String) : Prop :=
  ∀ fullName, (∃ definition ∈ names.definitions,
    definition.fullName = fullName ∧ definition.meaning.isPackage = true) ↔ fullName ∈ packages

theorem Element.packages_eq_nil {file : FileDescriptor} {element : Element}
    (inner : element.declaration ≠ .file) : element.packages file = [] := by
  obtain ⟨scope, declaration⟩ := element
  cases declaration with
  | file => exact absurd rfl inner
  | message | oneof | field | enum | enumValue | service | method | extension => rfl

namespace Names.Opens

variable {names next : Names} {packages : List String}

theorem empty : Names.empty.Opens [] := by
  simp [Names.Opens, Names.empty]

theorem define {added : Definition} (opens : names.Opens packages)
    (run : names.define added = .ok next) (proper : added.meaning.isPackage = false) :
    next.Opens packages := by
  rcases Names.define_cases run with ⟨_, rfl⟩ | ⟨package, _⟩
  · intro fullName
    simp only [← opens fullName, List.mem_cons, exists_eq_or_imp, proper, Bool.false_eq_true,
      and_false, false_or]
  · rw [proper] at package
    cases package

theorem definePackage {package file : String} (opens : names.Opens packages)
    (run : names.define ⟨package, file, .package⟩ = .ok next) :
    next.Opens (packages ++ [package]) := by
  intro fullName
  rw [List.mem_append, List.mem_singleton, ← opens fullName]
  rcases Names.define_cases run with ⟨_, rfl⟩ | ⟨_, rfl, first, found, before⟩
  · simp only [List.mem_cons, exists_eq_or_imp, Meaning.isPackage, and_true]
    rw [or_comm, eq_comm (a := package)]
  -- The package has been opened before, perhaps by another file, and is listed already.
  · refine ⟨Or.inl, fun either => either.elim id ?_⟩
    rintro rfl
    exact ⟨first, List.mem_of_find?_eq_some found, Names.find?_fullName found, before⟩

theorem element {file : FileDescriptor} {dialect : Dialect} {element : Element}
    (opens : names.Opens packages) (run : element.define file dialect names = .ok next) :
    next.Opens (packages ++ element.packages file) := by
  rcases Element.define_cases run with
    ⟨isFile, opened, fileAdded, defined⟩ | ⟨inner, added, _, proper, defined⟩
  · have atFirst : opened.Opens packages := by
      unfold Names.addFile at fileAdded
      split at fileAdded <;> cases fileAdded
      exact opens
    rw [Element.packages, isFile]
    refine foldlM_preserves (fun names done => names.Opens (packages ++ done)) ?_
      (by rwa [List.append_nil]) defined
    intro before done package after opens run
    simpa only [List.append_assoc] using opens.definePackage run
  · rw [Element.packages_eq_nil inner, List.append_nil]
    exact opens.define defined proper

theorem file {file : FileDescriptor × Dialect} (opens : names.Opens packages)
    (run : defineFile names file = .ok next) : next.Opens (packages ++ openedPackages file.1) := by
  refine foldlM_preserves
    (fun names elements => names.Opens (packages ++ elements.flatMap (·.packages file.1))) ?_
    (by rwa [List.flatMap_nil, List.append_nil]) run
  intro before elements element after opens run
  simpa only [List.flatMap_append, List.flatMap_cons, List.flatMap_nil, List.append_nil,
    List.append_assoc] using opens.element run

end Names.Opens

theorem Names.ofFiles_opens {files : List (FileDescriptor × Dialect)} {names : Names}
    (run : Names.ofFiles files = .ok names) :
    names.Opens ((files.map (·.1)).flatMap openedPackages) := by
  refine foldlM_preserves
    (fun names files => names.Opens ((files.map (·.1)).flatMap openedPackages)) ?_ .empty run
  intro before done file after opens run
  simpa only [List.map_append, List.map_cons, List.map_nil, List.flatMap_append, List.flatMap_cons,
    List.flatMap_nil, List.append_nil] using opens.file run

/-! ### Look-ups -/

section Names

variable {names : Names} {opened packages : List String} {declared : List Definition}

theorem Names.Holds.lookUp_eq_found (holds : names.Holds opened declared) {visible : List String}
    {wanted : Wanted} {fullName : String} {definition : Definition} :
    (View.mk names visible).lookUp wanted fullName = .found definition ↔
      definition ∈ declared ∧ definition.fullName = fullName ∧ definition.file ∈ visible ∧
        wanted.accepts definition.meaning = true := by
  rw [View.lookUp_eq_found, holds.find?_eq_some, holds.mem_definitions]
  constructor
  · rintro ⟨⟨member, named⟩, seen, accepted⟩
    have proper : definition.meaning.isPackage = false := by
      rcases Wanted.accepts_cases accepted with ⟨_, meaning⟩ | ⟨_, _, meaning⟩
      · exact meaning ▸ rfl
      · exact meaning ▸ rfl
    exact ⟨⟨member, proper⟩, named, seen, accepted⟩
  · rintro ⟨⟨member, _⟩, named, seen, accepted⟩
    exact ⟨⟨member, named⟩, seen, accepted⟩

/-- What encloses other names is a package or has been declared. -/
theorem Names.Holds.encloses_iff (holds : names.Holds opened declared)
    (opens : names.Opens packages) {fullName : String} :
    (names.find? fullName).any (·.meaning.encloses) = true ↔
      fullName ∈ packages ∨ ∃ definition ∈ declared, definition.fullName = fullName ∧
        definition.meaning.encloses = true := by
  rw [Option.any_eq_true, ← opens fullName]
  simp only [holds.find?_eq_some, holds.mem_definitions]
  constructor
  · rintro ⟨definition, ⟨member, named⟩, encloses⟩
    cases proper : definition.meaning.isPackage with
    | true => exact Or.inl ⟨definition, member, named, proper⟩
    | false => exact Or.inr ⟨definition, ⟨member, proper⟩, named, encloses⟩
  · rintro (⟨definition, member, named, package⟩ | ⟨definition, ⟨member, _⟩, named, encloses⟩)
    · refine ⟨definition, ⟨member, named⟩, ?_⟩
      cases meaning : definition.meaning with
      | package => rfl
      | message | enum | service | leaf => simp [Meaning.isPackage, meaning] at package
    · exact ⟨definition, ⟨member, named⟩, encloses⟩

end Names

/-- Views in which look-ups find the same and the same names enclose others. Why something is not
found may differ. -/
structure View.Alike (view other : View) : Prop where
  found : ∀ wanted fullName definition, view.lookUp wanted fullName = .found definition ↔
    other.lookUp wanted fullName = .found definition
  encloses : ∀ fullName, (view.names.find? fullName).any (·.meaning.encloses) =
    (other.names.find? fullName).any (·.meaning.encloses)

namespace View.Alike

variable {view other : View}

theorem resolve {wanted : Wanted} {scope name : String} {definition : Definition}
    (alike : view.Alike other) (run : view.resolve wanted scope name = .ok definition) :
    other.resolve wanted scope name = .ok definition := by
  unfold View.resolve at run ⊢
  split at run
  · rename_i fullName text
    split at run
    · cases run
    · cases run
    · rename_i found
      rw [(alike.found _ _ _).mp found]
      exact run
  · rename_i text relative
    split at run
    · have same : ∀ fullName, (view.lookUp wanted fullName).definition? =
          (other.lookUp wanted fullName).definition? := fun fullName =>
        Option.ext fun found => by
          simp only [LookUp.definition?_eq_some, alike.found]
      simp only [View.resolveSimple_eq_ok, same] at run ⊢
      exact run
    · simp only [View.resolveDotted_eq_ok, alike.encloses, alike.found] at run ⊢
      exact run

theorem fieldKind {scope : String} {path : Path} {field : FieldDescriptor} {kind : FieldKind}
    (alike : view.Alike other) (run : view.fieldKind scope path field = .ok kind) :
    other.fieldKind scope path field = .ok kind := by
  unfold View.fieldKind at run ⊢
  split at run
  · rename_i unnamed
    rwa [if_pos unnamed]
  · rename_i named
    rw [if_neg named]
    obtain ⟨target, reference, rest⟩ := bind_eq_ok.mp run
    exact bind_eq_ok.mpr ⟨target, alike.resolve reference, rest⟩

end View.Alike

/-! ### Visible files -/

section Visible

variable {files others : List FileDescriptor}

theorem publicImports_of_perm (perm : files.Perm others) (distinct : (files.map (·.name)).Nodup)
    (name : String) : publicImports files name = publicImports others name := by
  rw [publicImports, publicImports, find?_of_perm perm distinct]

theorem follow_of_perm (perm : files.Perm others) (distinct : (files.map (·.name)).Nodup)
    (fuel : Nat) (visible : List String) (name : String) :
    follow files fuel visible name = follow others fuel visible name := by
  induction fuel generalizing visible name with
  | zero => rfl
  | succ fuel ih => simp only [follow, publicImports_of_perm perm distinct, ih]

theorem visibleFiles_of_perm (perm : files.Perm others) (distinct : (files.map (·.name)).Nodup)
    (file : FileDescriptor) : visibleFiles files file = visibleFiles others file := by
  simp only [visibleFiles, follow_of_perm perm distinct, perm.length_eq]

end Visible

/-- What is known of the names of a set of files, in no order. -/
theorem NamesOf.holds {files : List FileDescriptor} {names : Names} (named : NamesOf files names) :
    names.Holds (files.flatMap openedFiles) (files.flatMap fileDefinitions) ∧
      names.Opens (files.flatMap openedPackages) := by
  obtain ⟨dialected, looked, run⟩ := named
  rw [← FileDescriptor.files_of_dialected looked]
  exact ⟨Names.ofFiles_holds run, Names.ofFiles_opens run⟩

/-- A file sees the same in every order of the files. -/
theorem NamesOf.alike {files others : List FileDescriptor} {names otherNames : Names}
    (named : NamesOf files names) (otherNamed : NamesOf others otherNames)
    (perm : files.Perm others) (distinct : (files.map (·.name)).Nodup) (file : FileDescriptor) :
    (viewOf names files file).Alike (viewOf otherNames others file) := by
  obtain ⟨holds, opens⟩ := named.holds
  obtain ⟨otherHolds, otherOpens⟩ := otherNamed.holds
  refine ⟨fun wanted fullName definition => ?_, fun fullName => ?_⟩
  · rw [viewOf, viewOf, holds.lookUp_eq_found, otherHolds.lookUp_eq_found,
      visibleFiles_of_perm perm distinct, (perm.flatMap_right _).mem_iff]
  · rw [Bool.eq_iff_iff, viewOf, viewOf, holds.encloses_iff opens,
      otherHolds.encloses_iff otherOpens, (perm.flatMap_right _).mem_iff]
    simp only [(perm.flatMap_right fileDefinitions).mem_iff]

end Pool

end FlowClients
