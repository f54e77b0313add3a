import FlowClients.Proofs.Pool.Declarations
import Mathlib.Data.List.Flatten

/-!
The definitions that a file makes at top level: its messages with their fields and its services with
their methods, in the order of their declaration. What any other definition of a message is called
ends in the declared name too.
-/

namespace FlowClients

theorem map_snd_withEarlier {α : Type} (earlier xs : List α) :
    (withEarlier earlier xs).map (·.2) = xs := by
  induction xs generalizing earlier with
  | nil => rfl
  | cons x xs ih => rw [withEarlier, List.map_cons, ih]

theorem sublist_middle {α : Type} (front inner rest : List α) :
    inner.Sublist (front ++ (inner ++ rest)) :=
  (List.sublist_append_left inner rest).trans (List.sublist_append_right front _)

namespace Pool

/-- What a message is called and means in the file that declares it at top level. -/
def messageDefinition (file : FileDescriptor) (tree : MessageTree) : Definition :=
  ⟨qualify file.package tree.root.name, file.name, .message tree.root⟩

def fieldDefinition (file : FileDescriptor) (tree : MessageTree) (field : FieldDescriptor) :
    Definition :=
  ⟨qualify (qualify file.package tree.root.name) field.name, file.name, .leaf⟩

theorem fieldElements_definitions (file : FileDescriptor) (path : Path) (tree : MessageTree) :
    (fieldElements (qualify file.package tree.root.name) path tree.root).filterMap
      (·.definition? file) = tree.root.fields.map (fieldDefinition file tree) := by
  rw [fieldElements, List.filterMap_map]
  conv_rhs => rw [← map_snd_withEarlier [] tree.root.fields, List.map_map]
  rw [← List.filterMap_eq_map]
  rfl

def messageDefinitions (file : FileDescriptor) (tree : MessageTree) : List Definition :=
  messageDefinition file tree :: tree.root.fields.map (fieldDefinition file tree)

/-- A message is followed by its fields, with other elements between them. -/
theorem messageElements_sublist (file : FileDescriptor) (path : Path) (tree : MessageTree) :
    (messageDefinitions file tree).Sublist
      ((messageElements file.package path tree).filterMap (·.definition? file)) := by
  obtain ⟨root, nested⟩ := tree
  have head : messageDefinitions file ⟨root, nested⟩ =
      ((⟨file.package, .message root⟩ : Element) ::
        fieldElements (qualify file.package root.name) path root).filterMap (·.definition? file) := by
    rw [messageDefinitions, ← fieldElements_definitions file path]
    rfl
  rw [messageElements, head]
  simp only [List.append_assoc]
  exact ((sublist_middle _ _ _).cons_cons _).filterMap _

theorem nestedElements_sublist (file : FileDescriptor) (path : Path) (index : Nat)
    (trees : List MessageTree) :
    (trees.flatMap (messageDefinitions file)).Sublist
      ((nestedElements file.package path index trees).filterMap (·.definition? file)) := by
  induction trees generalizing index with
  | nil => exact List.nil_sublist _
  | cons tree rest ih =>
    rw [nestedElements, List.filterMap_append, List.flatMap_cons]
    exact (messageElements_sublist file _ tree).append (ih (index + 1))

theorem fileDefinitions_sublist (file : FileDescriptor) :
    (file.messages.flatMap (messageDefinitions file)).Sublist (fileDefinitions file) := by
  rw [fileDefinitions, fileElements]
  exact (nestedElements_sublist file [4] 0 file.messages).trans
    ((((List.sublist_append_left _ _).trans (List.sublist_append_left _ _)).trans
      (List.sublist_append_left _ _)).cons _ |>.filterMap _)

theorem sublist_flatMap {α β : Type} {xs : List α} {x : α} (f : α → List β) (member : x ∈ xs) :
    (f x).Sublist (xs.flatMap f) := by
  rw [List.flatMap_def]
  exact List.sublist_flatten_of_mem (List.mem_map_of_mem member)

theorem fieldDefinitions_sublist {file : FileDescriptor} {tree : MessageTree}
    (member : tree ∈ file.messages) :
    (tree.root.fields.map (fieldDefinition file tree)).Sublist (fileDefinitions file) :=
  ((List.sublist_cons_self _ _).trans (sublist_flatMap (messageDefinitions file) member)).trans
    (fileDefinitions_sublist file)

theorem messageDefinition_mem {file : FileDescriptor} {tree : MessageTree}
    (member : tree ∈ file.messages) : messageDefinition file tree ∈ fileDefinitions file :=
  (fileDefinitions_sublist file).subset
    (List.mem_flatMap.mpr ⟨tree, member, List.mem_cons_self⟩)

def methodDefinition (file : FileDescriptor) (service : ServiceDescriptor)
    (method : MethodDescriptor) : Definition :=
  ⟨qualify (qualify file.package service.name) method.name, file.name, .leaf⟩

/-- The methods of a file are among its definitions, with other elements between them. -/
theorem methodDefinitions_sublist (file : FileDescriptor) :
    (file.services.flatMap fun service => service.methods.map (methodDefinition file service)).Sublist
      (fileDefinitions file) := by
  have ofService : ∀ service : ServiceDescriptor,
      (service.methods.map (methodDefinition file service)).Sublist
        ((serviceElements file.package service).filterMap (·.definition? file)) := by
    intro service
    have definitions : (service.methods.map fun method =>
        (⟨qualify file.package service.name, .method method⟩ : Element)).filterMap
          (·.definition? file) = service.methods.map (methodDefinition file service) := by
      rw [List.filterMap_map, ← List.filterMap_eq_map]
      rfl
    rw [← definitions, serviceElements]
    exact (List.sublist_cons_self _ _).filterMap _
  have ofServices : (file.services.flatMap fun service =>
      service.methods.map (methodDefinition file service)).Sublist
        ((file.services.flatMap (serviceElements file.package)).filterMap (·.definition? file)) := by
    rw [List.filterMap_flatMap]
    exact List.Sublist.flatMap_right file.services fun service _ => ofService service
  refine ofServices.trans (List.Sublist.filterMap _ (List.Sublist.cons _ ?_))
  exact (List.sublist_append_right _ _).trans (List.sublist_append_left _ _)

def serviceDefinition (file : FileDescriptor) (service : ServiceDescriptor) : Definition :=
  ⟨qualify file.package service.name, file.name, .service⟩

/-- The top-level messages and the services of a file are among its definitions, with other elements
between them. -/
theorem topLevelDefinitions_sublist (file : FileDescriptor) :
    (file.messages.map (messageDefinition file) ++
      file.services.map (serviceDefinition file)).Sublist (fileDefinitions file) := by
  have messages : (file.messages.map (messageDefinition file)).Sublist
      ((nestedElements file.package [4] 0 file.messages).filterMap (·.definition? file)) := by
    refine List.Sublist.trans ?_ (nestedElements_sublist file [4] 0 file.messages)
    rw [List.map_eq_flatMap]
    exact List.Sublist.flatMap_right _ fun tree _ =>
      List.singleton_sublist.mpr List.mem_cons_self
  have services : (file.services.map (serviceDefinition file)).Sublist
      ((file.services.flatMap (serviceElements file.package)).filterMap (·.definition? file)) := by
    rw [List.filterMap_flatMap, List.map_eq_flatMap]
    exact List.Sublist.flatMap_right _ fun service _ =>
      List.singleton_sublist.mpr List.mem_cons_self
  have both := messages.append services
  rw [← List.filterMap_append] at both
  refine both.trans (List.Sublist.filterMap _ (List.Sublist.cons _ ?_))
  exact ((List.sublist_append_left _ _).append (List.Sublist.refl _)).trans
    (List.sublist_append_left _ _)

/-- Wherever a message is declared, its full name is its declared name in some scope. -/
theorem qualified_of_message {file : FileDescriptor} {definition : Definition}
    {descriptor : MessageDescriptor} (member : definition ∈ fileDefinitions file)
    (message : definition.meaning = .message descriptor) :
    ∃ scope, definition.fullName = qualify scope descriptor.name := by
  obtain ⟨⟨scope, declaration⟩, _, stands⟩ := List.mem_filterMap.mp member
  cases declaration <;> simp only [Element.definition?, Option.some.injEq, reduceCtorEq] at stands
  all_goals subst stands; cases message
  exact ⟨scope, rfl⟩

end Pool

end FlowClients
