import FlowClients.Proofs.Accepted

/-!
Fields of the newer dialect. Once their names have been taken, no two fields of a message have names
that coincide without underscores and in small letters.
-/

namespace FlowClients

namespace Pool

theorem foldedNames_of_check {fields : List FieldDescriptor}
    (checked : checkFoldedNames fields = .ok ()) : (fields.map (foldedName ·.name)).Nodup := by
  refine List.pairwise_map.mpr (pairwise_of_withEarlier [] ?_)
  intro earlier field placed first before same
  have passed := forM_eq_ok.mp checked (earlier, field) placed
  dsimp only at passed
  split at passed
  · cases passed
  · rename_i free
    exact List.find?_eq_none.mp free first before (beq_iff_eq.mpr same)

theorem message_element_mem {file : FileDescriptor} {tree : MessageTree}
    (declared : tree ∈ file.messages) :
    (⟨file.package, .message tree.root⟩ : Element) ∈ fileElements file := by
  obtain ⟨inner, within⟩ := exists_messageElements file.package [4] 0 declared
  refine List.mem_cons_of_mem _ ?_
  simp only [List.append_assoc]
  refine List.mem_append_left _ (within ?_)
  obtain ⟨root, nested⟩ := tree
  exact List.mem_cons_self

theorem checkFoldedNames_of_define {file : FileDescriptor} {scope : String}
    {descriptor : MessageDescriptor} {names next : Names}
    (run : Element.define file .proto3 names ⟨scope, .message descriptor⟩ = .ok next) :
    checkFoldedNames descriptor.fields = .ok () := by
  obtain ⟨_, _, rest⟩ := bind_eq_ok.mp run
  obtain ⟨_, checked, _⟩ := bind_eq_ok.mp rest
  exact checked

end Pool

open Pool

theorem FileDescriptor.withDialect_dialect {file : FileDescriptor} {dialect : Dialect}
    {result : FileDescriptor × Dialect} (stated : file.dialect? = some dialect)
    (run : file.withDialect = .ok result) : result = (file, dialect) := by
  rw [withDialect, stated] at run
  exact (Except.ok.inj run).symm

theorem Pool.NamesOf.distinct_foldedNames {files : List FileDescriptor} {names : Names}
    (named : NamesOf files names) {file : FileDescriptor} (member : file ∈ files)
    (newer : file.dialect? = some .proto3) {tree : MessageTree}
    (declared : tree ∈ file.messages) : (tree.root.fields.map (foldedName ·.name)).Nodup := by
  obtain ⟨dialected, looked, run⟩ := named
  obtain ⟨result, present, found⟩ := exists_of_mem_forall₂ (mapM_eq_ok.mp looked).flip member
  cases FileDescriptor.withDialect_dialect newer found
  obtain ⟨_, _, fileRun⟩ := exists_step_of_foldlM run present
  obtain ⟨_, _, step⟩ := exists_step_of_foldlM fileRun (message_element_mem declared)
  exact foldedNames_of_check (checkFoldedNames_of_define step)

end FlowClients
