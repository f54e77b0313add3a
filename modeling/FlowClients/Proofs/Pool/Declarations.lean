import FlowClients.Pool.Names
import FlowClients.Proofs.Naming
import FlowClients.Proofs.Success

/-!
What the names of an accepted set of files are: one definition for every element that has a name,
under pairwise distinct full names, besides the packages.
-/

namespace FlowClients.Pool

/-- The definition that an element of a file stands for; the file itself stands for none. -/
def Element.definition? (file : FileDescriptor) (element : Element) : Option Definition :=
  let named (name : String) (meaning : Meaning) : Option Definition :=
    some ⟨qualify element.scope name, file.name, meaning⟩
  match element.declaration with
  | .file => none
  | .message descriptor => named descriptor.name (.message descriptor)
  | .enum descriptor => named descriptor.name (.enum descriptor)
  | .service descriptor => named descriptor.name .service
  | .oneof name => named name .leaf
  | .field _ _ _ descriptor | .extension _ descriptor => named descriptor.name .leaf
  | .enumValue _ _ descriptor => named descriptor.name .leaf
  | .method descriptor => named descriptor.name .leaf

def Element.opened? (file : FileDescriptor) (element : Element) : Option String :=
  match element.declaration with
  | .file => some file.name
  | _ => none

def fileDefinitions (file : FileDescriptor) : List Definition :=
  (fileElements file).filterMap (·.definition? file)

def openedFiles (file : FileDescriptor) : List String :=
  (fileElements file).filterMap (·.opened? file)

/-- The files opened so far and the definitions made so far, packages apart, in their order. No full
name is defined twice, be it a package or not. -/
structure Names.Holds (names : Names) (opened : List String) (declared : List Definition) : Prop where
  files : names.files = opened.reverse
  definitions : names.definitions.filter (!·.meaning.isPackage) = declared.reverse
  distinctFiles : opened.Nodup
  distinctNames : (names.definitions.map (·.fullName)).Nodup

theorem Names.empty_holds : Names.empty.Holds [] [] :=
  ⟨rfl, rfl, .nil, .nil⟩

theorem Names.fullName_notMem_of_find?_eq_none {names : Names} {fullName : String}
    (absent : names.find? fullName = none) :
    fullName ∉ names.definitions.map (·.fullName) := by
  intro member
  obtain ⟨definition, present, same⟩ := List.mem_map.mp member
  have different := List.find?_eq_none.mp absent definition present
  exact different (by simpa only [beq_iff_eq] using same)

/-- A definition is made under a new name, or it opens a package once more. -/
theorem Names.define_cases {names next : Names} {added : Definition}
    (run : names.define added = .ok next) :
    (names.find? added.fullName = none ∧
      next = { names with definitions := added :: names.definitions }) ∨
      added.meaning.isPackage = true ∧ next = names ∧
        ∃ first, names.find? added.fullName = some first ∧ first.meaning.isPackage = true := by
  unfold Names.define at run
  split at run
  · rename_i absent
    cases run
    exact Or.inl ⟨absent, rfl⟩
  · rename_i first found
    split at run
    · rename_i packages
      obtain ⟨before, again⟩ := Bool.and_eq_true_iff.mp packages
      cases run
      exact Or.inr ⟨again, rfl, first, found, before⟩
    · split at run <;> cases run

theorem Names.Holds.define {names next : Names} {opened : List String} {declared : List Definition}
    {added : Definition} (holds : names.Holds opened declared)
    (run : names.define added = .ok next) (proper : added.meaning.isPackage = false) :
    next.Holds opened (declared ++ [added]) := by
  rcases Names.define_cases run with ⟨absent, rfl⟩ | ⟨package, _⟩
  · refine ⟨holds.files, ?_, holds.distinctFiles, ?_⟩
    · simp only [List.filter_cons, proper, Bool.not_false, if_true, holds.definitions,
        List.reverse_append, List.reverse_singleton, List.singleton_append]
    · simp only [List.map_cons, List.nodup_cons]
      exact ⟨Names.fullName_notMem_of_find?_eq_none absent, holds.distinctNames⟩
  · rw [proper] at package
    cases package

theorem Names.Holds.definePackage {names next : Names} {opened : List String}
    {declared : List Definition} {added : Definition} (holds : names.Holds opened declared)
    (run : names.define added = .ok next) (package : added.meaning.isPackage = true) :
    next.Holds opened declared := by
  rcases Names.define_cases run with ⟨absent, rfl⟩ | ⟨_, rfl, _⟩
  · refine ⟨holds.files, ?_, holds.distinctFiles, ?_⟩
    · simpa only [List.filter_cons, package, Bool.not_true, Bool.false_eq_true, if_false]
        using holds.definitions
    · simp only [List.map_cons, List.nodup_cons]
      exact ⟨Names.fullName_notMem_of_find?_eq_none absent, holds.distinctNames⟩
  · exact holds

theorem Names.Holds.addFile {names next : Names} {opened : List String}
    {declared : List Definition} {name : String} (holds : names.Holds opened declared)
    (run : names.addFile name = .ok next) : next.Holds (opened ++ [name]) declared := by
  unfold Names.addFile at run
  split at run
  · cases run
  · rename_i absent
    cases run
    have fresh : name ∉ opened := by simpa only [holds.files, List.mem_reverse] using absent
    refine ⟨?_, holds.definitions, ?_, holds.distinctNames⟩
    · simp only [holds.files, List.reverse_append, List.reverse_singleton, List.singleton_append]
    · exact List.nodup_append.mpr ⟨holds.distinctFiles, by simp,
        fun a before b new same => fresh (by rwa [← List.mem_singleton.mp new, ← same])⟩

theorem Names.Holds.definePackages {opened : List String} {declared : List Definition}
    {file : String} {packages : List String} {names next : Names}
    (holds : names.Holds opened declared)
    (run : packages.foldlM (fun names package => names.define ⟨package, file, .package⟩) names =
      .ok next) : next.Holds opened declared := by
  refine foldlM_preserves (fun names _ => names.Holds opened declared) ?_ holds run
  intro before _ package after holds run
  exact holds.definePackage run rfl

/-- An element adds its file and the packages around it, or its definition. -/
theorem Element.define_cases {names next : Names} {file : FileDescriptor} {dialect : Dialect}
    {element : Element} (run : element.define file dialect names = .ok next) :
    (element.declaration = .file ∧ ∃ opened, names.addFile file.name = .ok opened ∧
      (packageNames file.package).foldlM
        (fun names package => names.define ⟨package, file.name, .package⟩) opened = .ok next) ∨
      element.declaration ≠ .file ∧ ∃ added, element.definition? file = some added ∧
        added.meaning.isPackage = false ∧ names.define added = .ok next := by
  obtain ⟨scope, declaration⟩ := element
  cases declaration with
  | file =>
    obtain ⟨opened, added, packages⟩ := bind_eq_ok.mp run
    exact Or.inl ⟨rfl, opened, added, packages⟩
  | message descriptor =>
    obtain ⟨middle, added, checked⟩ := bind_eq_ok.mp run
    have same : middle = next := by
      split at checked
      · obtain ⟨_, _, rest⟩ := bind_eq_ok.mp checked
        exact pure_eq_ok.mp rest
      · exact pure_eq_ok.mp checked
    subst same
    exact Or.inr ⟨nofun, _, rfl, rfl, added⟩
  | enum descriptor =>
    obtain ⟨middle, added, rest⟩ := bind_eq_ok.mp run
    obtain ⟨_, _, result⟩ := bind_eq_ok.mp rest
    cases pure_eq_ok.mp result
    exact Or.inr ⟨nofun, _, rfl, rfl, added⟩
  | service | oneof | field | extension | enumValue | method =>
    exact Or.inr ⟨nofun, _, rfl, rfl, run⟩

theorem Element.opened?_eq_none {file : FileDescriptor} {element : Element}
    (inner : element.declaration ≠ .file) : element.opened? file = none := by
  obtain ⟨scope, declaration⟩ := element
  cases declaration with
  | file => exact absurd rfl inner
  | message | oneof | field | enum | enumValue | service | method | extension => rfl

/-- One element adds its file or its definition, and nothing else. -/
theorem Names.Holds.element {names next : Names} {opened : List String}
    {declared : List Definition} {file : FileDescriptor} {dialect : Dialect} {element : Element}
    (holds : names.Holds opened declared)
    (run : element.define file dialect names = .ok next) :
    next.Holds (opened ++ (element.opened? file).toList)
      (declared ++ (element.definition? file).toList) := by
  rcases Element.define_cases run with
    ⟨isFile, _, fileAdded, packages⟩ | ⟨inner, added, stands, proper, defined⟩
  · rw [Element.opened?, Element.definition?, isFile, Option.toList_none, List.append_nil]
    exact (holds.addFile fileAdded).definePackages packages
  · rw [Element.opened?_eq_none inner, stands, Option.toList_none, List.append_nil]
    exact holds.define defined proper

theorem Names.Holds.file {names next : Names} {opened : List String} {declared : List Definition}
    {file : FileDescriptor × Dialect} (holds : names.Holds opened declared)
    (run : defineFile names file = .ok next) :
    next.Holds (opened ++ openedFiles file.1) (declared ++ fileDefinitions file.1) := by
  refine foldlM_preserves
    (fun names elements => names.Holds (opened ++ elements.filterMap (·.opened? file.1))
      (declared ++ elements.filterMap (·.definition? file.1)))
    ?_ (by simpa using holds) run
  intro before elements element after holds run
  have next := holds.element run
  simpa only [List.filterMap_eq_flatMap_toList, List.flatMap_append, List.flatMap_cons,
    List.flatMap_nil, List.append_nil, List.append_assoc] using next

/-- The names of accepted files are their own definitions, each of them made once. -/
theorem Names.ofFiles_holds {files : List (FileDescriptor × Dialect)} {names : Names}
    (run : Names.ofFiles files = .ok names) :
    names.Holds ((files.map (·.1)).flatMap openedFiles)
      ((files.map (·.1)).flatMap fileDefinitions) := by
  refine foldlM_preserves
    (fun names files => names.Holds ((files.map (·.1)).flatMap openedFiles)
      ((files.map (·.1)).flatMap fileDefinitions))
    ?_ Names.empty_holds run
  intro before done file after holds run
  simpa only [List.map_append, List.map_cons, List.map_nil, List.flatMap_append,
    List.flatMap_cons, List.flatMap_nil, List.append_nil] using holds.file run

section Holds

variable {names : Names} {opened : List String} {declared : List Definition}

theorem Names.Holds.mem_definitions (holds : names.Holds opened declared) {definition : Definition} :
    definition ∈ declared ↔
      definition ∈ names.definitions ∧ definition.meaning.isPackage = false := by
  rw [← List.mem_reverse, ← holds.definitions, List.mem_filter]
  simp only [Bool.not_eq_true']

theorem Names.find?_fullName {fullName : String} {definition : Definition}
    (found : names.find? fullName = some definition) : definition.fullName = fullName := by
  simpa only [beq_iff_eq] using List.find?_some found

/-- What is found under a name and is not a package has been declared. -/
theorem Names.Holds.declared_of_find? (holds : names.Holds opened declared) {fullName : String}
    {definition : Definition} (found : names.find? fullName = some definition)
    (proper : definition.meaning.isPackage = false) : definition ∈ declared :=
  holds.mem_definitions.mpr ⟨List.mem_of_find?_eq_some found, proper⟩

/-- Under its own full name every definition is found, packages included. -/
theorem Names.Holds.find?_eq_some (holds : names.Holds opened declared) {fullName : String}
    {definition : Definition} : names.find? fullName = some definition ↔
      definition ∈ names.definitions ∧ definition.fullName = fullName := by
  constructor
  · exact fun found => ⟨List.mem_of_find?_eq_some found, Names.find?_fullName found⟩
  · rintro ⟨member, rfl⟩
    exact find?_eq_some_of_nodup holds.distinctNames member

theorem Names.Holds.eq_of_fullName (holds : names.Holds opened declared) {a b : Definition}
    (first : a ∈ declared) (second : b ∈ declared) (same : a.fullName = b.fullName) : a = b :=
  List.inj_on_of_nodup_map holds.distinctNames (holds.mem_definitions.mp first).1
    (holds.mem_definitions.mp second).1 same

theorem Names.Holds.distinct_declared (holds : names.Holds opened declared) :
    (declared.map (·.fullName)).Nodup := by
  have sublist : (declared.reverse.map (·.fullName)).Sublist
      (names.definitions.map (·.fullName)) := by
    rw [← holds.definitions]
    exact List.filter_sublist.map _
  have reversed := holds.distinctNames.sublist sublist
  rwa [List.map_reverse, List.nodup_reverse] at reversed

end Holds

end FlowClients.Pool
