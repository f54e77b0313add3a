import FlowClients.Pool.Resolve
import FlowClients.Proofs.Pool.Members

/-!
Where references lead: to a definition among the names, of a kind that is wanted, found under its own
full name.
-/

namespace FlowClients.Pool

/-- A message is always accepted, and besides messages only an enum may be. -/
theorem Wanted.accepts_cases {wanted : Wanted} {meaning : Meaning}
    (accepted : wanted.accepts meaning = true) :
    (∃ descriptor, meaning = .message descriptor) ∨
      wanted = .fieldType ∧ ∃ descriptor, meaning = .enum descriptor := by
  cases meaning with
  | message descriptor => exact Or.inl ⟨descriptor, rfl⟩
  | enum descriptor =>
    cases wanted with
    | message => cases accepted
    | fieldType => exact Or.inr ⟨rfl, descriptor, rfl⟩
  | package | service | leaf => cases accepted

variable {view : View} {wanted : Wanted} {definition : Definition}

theorem View.lookUp_eq_found {fullName : String} :
    view.lookUp wanted fullName = .found definition ↔
      view.names.find? fullName = some definition ∧ definition.file ∈ view.visible ∧
        wanted.accepts definition.meaning = true := by
  unfold View.lookUp
  constructor
  · intro run
    split at run
    · cases run
    · rename_i first found
      split at run
      · cases run
      · rename_i seen
        split at run
        · rename_i accepted
          cases run
          exact ⟨found, not_not.mp seen, accepted⟩
        · cases run
  · rintro ⟨found, seen, accepted⟩
    simp only [found, seen, not_true_eq_false, accepted, if_true, if_false]

def LookUp.definition? : LookUp → Option Definition
  | .found definition => some definition
  | _ => none

theorem LookUp.definition?_eq_some {result : LookUp} :
    result.definition? = some definition ↔ result = .found definition := by
  cases result <;> simp [LookUp.definition?]

/-- Scopes in which the name is not found are passed over, whatever they hold. -/
theorem View.resolveSimple_eq_ok {scope name : String} :
    view.resolveSimple wanted scope name = .ok definition ↔
      (scopes scope).findSome? (fun outer =>
        (view.lookUp wanted (qualify outer name)).definition?) = some definition := by
  have hits := List.findSome?_map (l := scopes scope) (p := LookUp.definition?)
    (f := fun outer => view.lookUp wanted (qualify outer name))
  simp only [Function.comp_def] at hits
  rw [← hits]
  simp only [View.resolveSimple]
  split
  · rename_i first hit
    change List.findSome? LookUp.definition? _ = some first at hit
    rw [hit, Except.ok.injEq, Option.some.injEq]
  · rename_i miss
    change List.findSome? LookUp.definition? _ = none at miss
    simp only [miss, reduceCtorEq]

theorem View.resolveDotted_eq_ok {scope first name : String} :
    view.resolveDotted wanted scope first name = .ok definition ↔ ∃ outer,
      (scopes scope).find? (fun outer =>
        (view.names.find? (qualify outer first)).any (·.meaning.encloses)) = some outer ∧
      view.lookUp wanted (qualify outer name) = .found definition := by
  simp only [View.resolveDotted]
  split
  · rename_i undecided
    simp only [undecided, reduceCtorEq, false_and, exists_false]
  · rename_i outer decided
    simp only [decided, Option.some.injEq, exists_eq_left']
    split <;> simp_all

/-- The scopes matter for which definition is found, not for what can be found. -/
theorem View.resolve_lookUp {scope name : String}
    (run : view.resolve wanted scope name = .ok definition) :
    ∃ fullName, view.lookUp wanted fullName = .found definition := by
  unfold View.resolve at run
  split at run
  · rename_i fullName _
    refine ⟨String.ofList fullName, ?_⟩
    split at run
    · cases run
    · cases run
    · rename_i found
      cases run
      exact found
  · split at run
    · obtain ⟨outer, _, found⟩ :=
        List.exists_of_findSome?_eq_some (View.resolveSimple_eq_ok.mp run)
      exact ⟨qualify outer name, LookUp.definition?_eq_some.mp found⟩
    · obtain ⟨outer, _, found⟩ := View.resolveDotted_eq_ok.mp run
      exact ⟨qualify outer name, found⟩

theorem View.resolve_found {scope name : String}
    (run : view.resolve wanted scope name = .ok definition) :
    view.names.find? definition.fullName = some definition ∧
      wanted.accepts definition.meaning = true := by
  obtain ⟨fullName, hit⟩ := View.resolve_lookUp run
  obtain ⟨found, _, accepted⟩ := View.lookUp_eq_found.mp hit
  exact ⟨by rwa [Names.find?_fullName found], accepted⟩

theorem View.fieldKind_message {scope fullName : String} {path : Path} {field : FieldDescriptor}
    (run : view.fieldKind scope path field = .ok (.message fullName)) :
    ∃ definition descriptor, view.names.find? fullName = some definition ∧
      definition.meaning = .message descriptor := by
  unfold View.fieldKind at run
  split at run
  · split at run <;> cases run
  · obtain ⟨target, reference, kind⟩ := bind_eq_ok.mp run
    obtain ⟨found, accepted⟩ := View.resolve_found reference
    split at kind
    · cases pure_eq_ok.mp kind
    · rename_i other
      have same := pure_eq_ok.mp kind
      split at same <;> cases same
      rcases Wanted.accepts_cases accepted with ⟨descriptor, meaning⟩ | ⟨_, descriptor, meaning⟩
      · exact ⟨target, descriptor, found, meaning⟩
      · exact absurd meaning (other descriptor)

end FlowClients.Pool
