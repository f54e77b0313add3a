import FlowClients.FileTree
import FlowClients.Proofs.Files.Locations
import FlowClients.Proofs.Success
import Mathlib.Data.List.TakeWhile

/-!
What writing does to a tree of files. Directories are made where nothing was and files are written
where no directory was, so a directory that is there stays, with every way that leads through it;
and what a run changes lies where the paths lead that it was given, or on their way.
-/

namespace FlowClients

namespace FileTree

variable {tree before after changed : FileTree} {location other reached : Location}
  {path segment : String} {segments front rest : List String} {node value : FileNode}

/-! ### Nodes -/

theorem node?_put (tree : FileTree) (location other : Location) (node : FileNode) :
    (tree.put location node).node? other =
      if other = [] then some .directory
      else if other = location then some node else tree.node? other := by
  unfold node? put
  by_cases root : other = []
  · rw [if_pos root, if_pos root]
  rw [if_neg root, if_neg root, List.find?_append, List.find?_filter]
  by_cases same : other = location
  · subst same
    have gone : tree.nodes.find? (fun a => a.1 != other ∧ a.1 == other) = none := by simp
    rw [gone, if_pos rfl]
    simp
  · have kept : (fun a : Location × FileNode => decide (a.1 != location ∧ a.1 == other)) =
        (fun a => a.1 == other) := by
      funext a
      by_cases here : a.1 = other <;> simp [here, same]
    rw [kept, if_neg same, if_neg root]
    simp [Ne.symm same]

theorem mem_nodes_put : (other, value) ∈ (tree.put location node).nodes ↔
    (other, value) ∈ tree.nodes ∧ other ≠ location ∨ other = location ∧ value = node := by
  simp [put]

theorem not_mem_nodes_of_free (free : tree.node? location = none) :
    (location, node) ∉ tree.nodes := by
  unfold node? at free
  split at free
  · cases free
  · intro member
    have absent := List.find?_eq_none.mp (Option.map_eq_none_iff.mp free) _ member
    simp at absent

/-! ### Ways -/

theorem requireDirectory_eq_ok :
    tree.requireDirectory location = .ok () ↔ tree.node? location = some .directory := by
  unfold requireDirectory
  split <;> simp_all

theorem walk_cons_eq_ok : tree.walk location (segment :: rest) = .ok reached ↔
    tree.node? location = some .directory ∧
      (Path.isIdle segment = true ∨ segment = ".." ∨ segment.utf8ByteSize ≤ maxNameLength) ∧
      tree.walk (Path.step location segment) rest = .ok reached := by
  have one : ∀ next : Prop, (∃ u, tree.requireDirectory location = .ok u ∧ next) ↔
      tree.requireDirectory location = .ok () ∧ next :=
    fun _ => ⟨fun ⟨(), known⟩ => known, fun known => ⟨(), known⟩⟩
  rw [walk, bind_eq_ok, one, ← requireDirectory_eq_ok]
  refine and_congr_right fun _ => ?_
  unfold Path.step
  by_cases idle : Path.isIdle segment = true
  · simp [idle]
  by_cases up : segment = ".."
  · subst up
    simp [idle]
  by_cases long : maxNameLength < segment.utf8ByteSize
  · simp [idle, up, long, throw_ne_ok]
  · simp [idle, up, long, Nat.le_of_not_lt long]

theorem walk_append_eq_ok : tree.walk location (front ++ rest) = .ok reached ↔
    ∃ middle, tree.walk location front = .ok middle ∧ tree.walk middle rest = .ok reached := by
  induction front generalizing location with
  | nil => simp [walk]
  | cons segment front ih =>
    rw [List.cons_append, walk_cons_eq_ok, ih]
    simp only [walk_cons_eq_ok]
    constructor
    · rintro ⟨here, allowed, middle, first, second⟩
      exact ⟨middle, ⟨here, allowed, first⟩, second⟩
    · rintro ⟨middle, ⟨here, allowed, first⟩, second⟩
      exact ⟨here, allowed, middle, first, second⟩

theorem eq_lead_of_walk (walked : tree.walk location segments = .ok reached) :
    reached = Path.lead location segments := by
  induction segments generalizing location with
  | nil =>
    cases walked
    rfl
  | cons segment rest ih => exact ih (walk_cons_eq_ok.mp walked).2.2

/-- Everything on a way that can be walked is a directory. -/
theorem directory_of_walk (walked : tree.walk location segments = .ok reached)
    (within : front <+: segments) (short : front ≠ segments) :
    tree.node? (Path.lead location front) = some .directory := by
  obtain ⟨rest, rfl⟩ := within
  obtain ⟨middle, first, second⟩ := walk_append_eq_ok.mp walked
  cases rest with
  | nil => exact absurd (List.append_nil front).symm short
  | cons segment rest =>
    rw [← eq_lead_of_walk first]
    exact (walk_cons_eq_ok.mp second).1

theorem follow_eq_ok : tree.follow path segments = .ok reached ↔
    '\x00' ∉ path.toList ∧
      tree.walk (Path.origin tree.workingDirectory path) segments = .ok reached := by
  unfold follow Path.origin
  split <;> simp_all

theorem eq_resolve_of_locate (located : tree.locate path = .ok reached) :
    reached = Path.resolve tree.workingDirectory path :=
  eq_lead_of_walk (follow_eq_ok.mp located).2

theorem isDirectory_iff : tree.isDirectory path = true ↔
    ∃ reached, tree.locate path = .ok reached ∧ tree.node? reached = some .directory := by
  unfold isDirectory
  split <;> simp_all

/-- Everything that a directory's path passes is a directory. -/
theorem directory_of_passes (there : tree.isDirectory path = true)
    (passed : Path.Passes tree.workingDirectory path location) :
    tree.node? location = some .directory := by
  obtain ⟨reached, located, directory⟩ := isDirectory_iff.mp there
  obtain ⟨front, within, rfl⟩ := passed
  by_cases whole : front = Path.segments path
  · rw [whole]
    rwa [eq_resolve_of_locate located] at directory
  · exact directory_of_walk (follow_eq_ok.mp located).2 within whole

/-! ### Changes -/

/-- Whether a node may come to a location: a directory where nothing is, a file where no directory
is. -/
def Vacant (tree : FileTree) (location : Location) : FileNode → Prop
  | .directory => tree.node? location = none
  | .file _ => tree.node? location ≠ some .directory

theorem Vacant.not_directory (vacant : tree.Vacant location node) :
    tree.node? location ≠ some .directory := by
  cases node with
  | directory =>
    intro there
    cases vacant.symm.trans there
  | file => exact vacant

/-- The trees that a tree becomes by nodes that come to vacant locations, where `may` allows it. -/
inductive Becomes (may : Location → FileNode → Prop) (before : FileTree) : FileTree → Prop
  | same : Becomes may before before
  | put {tree : FileTree} {location : Location} {node : FileNode}
      (earlier : Becomes may before tree) (allowed : may location node)
      (vacant : tree.Vacant location node) : Becomes may before (tree.put location node)

namespace Becomes

variable {may more : Location → FileNode → Prop}

theorem workingDirectory (becomes : Becomes may before after) :
    after.workingDirectory = before.workingDirectory := by
  induction becomes with
  | same => rfl
  | put _ _ _ ih => exact ih

theorem mono (becomes : Becomes may before after)
    (wider : ∀ location node, may location node → more location node) :
    Becomes more before after := by
  induction becomes with
  | same => exact .same
  | put _ allowed vacant ih => exact .put ih (wider _ _ allowed) vacant

theorem trans (first : Becomes may before tree) (second : Becomes may tree after) :
    Becomes may before after := by
  induction second with
  | same => exact first
  | put _ allowed vacant ih => exact .put ih allowed vacant

/-- What is there stays as it is, unless it is a file that may be written anew. -/
theorem node?_eq_some (becomes : Becomes may before after) (there : before.node? location = some node)
    (safe : node = .directory ∨ ∀ content, ¬ may location (.file content)) :
    after.node? location = some node := by
  induction becomes with
  | same => exact there
  | @put tree target value _ allowed vacant ih =>
    rw [node?_put]
    split
    · rename_i root
      rw [root] at ih
      exact ih
    split
    · rename_i same
      subst same
      -- A directory is never vacant, and a directory comes only to where nothing is.
      rcases safe with rfl | unwritten
      · exact absurd ih vacant.not_directory
      · cases value with
        | directory => cases vacant.symm.trans ih
        | file content => exact absurd allowed (unwritten content)
    · exact ih

/-- A node that has changed was no directory, and the change was allowed. -/
theorem exists_of_node?_ne (becomes : Becomes may before after)
    (change : after.node? location ≠ before.node? location) :
    before.node? location ≠ some .directory ∧ ∃ node, may location node := by
  refine ⟨fun there => change ((becomes.node?_eq_some there (Or.inl rfl)).trans there.symm), ?_⟩
  induction becomes with
  | same => exact absurd rfl change
  | @put tree target value _ allowed _ ih =>
    rw [node?_put] at change
    split at change
    · rename_i root
      subst root
      exact absurd rfl change
    split at change
    · rename_i same
      exact ⟨value, same ▸ allowed⟩
    · exact ih change

theorem file_mem_iff (becomes : Becomes may before after) {content : List UInt8}
    (unwritten : ∀ content, ¬ may location (.file content)) :
    (location, .file content) ∈ after.nodes ↔ (location, .file content) ∈ before.nodes := by
  induction becomes with
  | same => rfl
  | @put tree target value _ allowed vacant ih =>
    rw [mem_nodes_put, ← ih]
    constructor
    · rintro (⟨member, _⟩ | ⟨rfl, rfl⟩)
      · exact member
      · exact absurd allowed (unwritten content)
    · intro member
      refine Or.inl ⟨member, ?_⟩
      rintro rfl
      cases value with
      | directory => exact not_mem_nodes_of_free vacant member
      | file content => exact unwritten content allowed

theorem walk_eq_ok (becomes : Becomes may before after)
    (walked : before.walk location segments = .ok reached) :
    after.walk location segments = .ok reached := by
  induction segments generalizing location with
  | nil => exact walked
  | cons segment rest ih =>
    obtain ⟨here, allowed, next⟩ := walk_cons_eq_ok.mp walked
    exact walk_cons_eq_ok.mpr ⟨becomes.node?_eq_some here (Or.inl rfl), allowed, ih next⟩

theorem follow_eq_ok (becomes : Becomes may before after)
    (followed : before.follow path segments = .ok reached) :
    after.follow path segments = .ok reached := by
  rw [FileTree.follow_eq_ok] at followed ⊢
  rw [becomes.workingDirectory]
  exact ⟨followed.1, becomes.walk_eq_ok followed.2⟩

end Becomes

/-! ### Making and writing -/

theorem exists_trimmed (segments : List String) : ∃ count,
    segments = (segments.reverse.dropWhile (· == "")).reverse ++ List.replicate count "" := by
  have idle : ∀ segment ∈ (segments.reverse.takeWhile (· == "")).reverse, segment = "" := by
    intro segment member
    exact beq_iff_eq.mp (List.mem_takeWhile_imp (p := (· == "")) (List.mem_reverse.mp member))
  refine ⟨(segments.reverse.takeWhile (· == "")).reverse.length, ?_⟩
  rw [← List.eq_replicate_of_mem idle, ← List.reverse_append, List.takeWhile_append_dropWhile,
    List.reverse_reverse]

theorem walk_empty (there : tree.node? location = some .directory) (count : Nat) :
    tree.walk location (List.replicate count "") = .ok location := by
  induction count with
  | zero => rfl
  | succ count ih => exact walk_cons_eq_ok.mpr ⟨there, Or.inl rfl, ih⟩

theorem read_eq_ok {content : List UInt8} (located : tree.locate path = .ok location)
    (there : tree.node? location = some (.file content)) : tree.read path = .ok content := by
  rw [read, located]
  simp only [bind, Except.bind, there]
  rfl

/-- A directory is made where the path leads, and the path then leads to it. -/
theorem makeDirectory_eq_ok (made : tree.makeDirectory path = .ok changed) :
    tree.Vacant (Path.resolve tree.workingDirectory path) .directory ∧
      changed = tree.put (Path.resolve tree.workingDirectory path) .directory ∧
      changed.isDirectory path = true := by
  obtain ⟨count, whole⟩ := exists_trimmed (Path.segments path)
  obtain ⟨location, followed, rest⟩ := bind_eq_ok.mp made
  have target : Path.resolve tree.workingDirectory path = location := by
    rw [Path.resolve, whole, Path.lead_append, Path.lead_empty,
      eq_lead_of_walk (FileTree.follow_eq_ok.mp followed).2]
  rw [target]
  split at rest
  · exact absurd rest throw_ne_ok
  rename_i free
  cases pure_eq_ok.mp rest
  have becomes : Becomes (fun _ _ => True) tree (tree.put location .directory) :=
    .put .same trivial free
  have there : (tree.put location .directory).node? location = some .directory := by
    rw [node?_put]
    split
    · rfl
    · exact if_pos rfl
  refine ⟨free, rfl, isDirectory_iff.mpr ⟨location, ?_, there⟩⟩
  obtain ⟨plain, walked⟩ := FileTree.follow_eq_ok.mp (becomes.follow_eq_ok followed)
  refine FileTree.follow_eq_ok.mpr ⟨plain, ?_⟩
  rw [whole]
  exact walk_append_eq_ok.mpr ⟨location, walked, walk_empty there count⟩

/-- A file is written where the path leads. -/
theorem write_eq_ok {content : List UInt8} (written : tree.write path content = .ok changed) :
    tree.locate path = .ok (Path.resolve tree.workingDirectory path) ∧
      tree.Vacant (Path.resolve tree.workingDirectory path) (.file content) ∧
      changed = tree.put (Path.resolve tree.workingDirectory path) (.file content) := by
  obtain ⟨location, located, rest⟩ := bind_eq_ok.mp written
  rw [← eq_resolve_of_locate located]
  split at rest
  · exact absurd rest throw_ne_ok
  · rename_i vacant
    exact ⟨located, vacant, (pure_eq_ok.mp rest).symm⟩

end FileTree

end FlowClients
