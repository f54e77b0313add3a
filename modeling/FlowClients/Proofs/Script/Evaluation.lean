import FlowClients.ClientModule
import FlowClients.Proofs.Naming
import FlowClients.Proofs.Success

/-!
What the emitted converters do. Values are those of the language as far as converters tell them
apart; objects are maps from keys to values, and a missing key reads as undefined. Converters call
each other, so that an evaluation carries fuel for the nesting of calls. What does not depend on it,
once there is enough, is the result.
-/

namespace FlowClients.Script

/-- A value; `D` are the points in time that valid dates stand for. -/
inductive Value (D : Type)
  | undefined
  | null
  | text (value : String)
  | number (value : Float)
  | boolean (value : Bool)
  | date (value : D)
  | invalidDate
  | array (items : List (Value D))
  | object (get : String → Option (Value D))

/-- How dates are written and constructed, which is `none` for an invalid date. -/
structure Dates (D : Type) where
  isoText : D → String
  construct : Value D → Option D
  construct_isoText : ∀ date, construct (.text (isoText date)) = some date

/-- Why an evaluation has no result. -/
inductive Stop
  | typeError
  /-- The text of an invalid date. -/
  | rangeError
  | unknownFunction (name : String)
  /-- A member of a value other than an object, which is not described here. -/
  | undescribed
  | tooDeep
deriving DecidableEq

variable {D : Type}

namespace Value

/-- Whether a value is neither null nor undefined. -/
def isPresent : Value D → Bool
  | undefined | null => false
  | _ => true

def member (value : Value D) (key : String) : Except Stop (Value D) :=
  match value with
  | undefined | null => .error .typeError
  | object get => .ok ((get key).getD undefined)
  | _ => .error .undescribed

end Value

def constantValue : Constant → Value D
  | .undefined => .undefined
  | .null => .null
  | .emptyText => .text ""
  | .zero => .number 0
  | .no => .boolean false
  | .emptyList => .array []

/-- Evaluate an expression where `m` has a value, given what calls of converters do. -/
def eval (call : Converter → Value D → Except Stop (Value D)) (m : Value D) :
    Expr → Except Stop (Value D)
  | .member key => m.member key
  | .constant value => .ok (constantValue value)
  | .convert converter value => do call converter (← eval call m value)
  | .convertEach converter values => do
    match ← eval call m values with
    | .array items => return .array (← items.mapM (call converter))
    | _ => throw .typeError
  | .ifPresent tested present absent => do
    if (← eval call m tested).isPresent then eval call m present else eval call m absent

/-- Evaluate an object literal. Of two entries with one key the last one counts. -/
def literal (evaluate : Expr → Except Stop (Value D)) (entries : List (String × Expr)) :
    Except Stop (Value D) := do
  let members ← entries.mapM fun (key, expr) => do return (key, ← evaluate expr)
  return .object fun key => members.reverse.lookup key

def wireEntries (model : ModelDecl) : List (String × Expr) :=
  model.members.map fun member => (member.wireName, member.serialized)

def memoryEntries (model : ModelDecl) : List (String × Expr) :=
  model.members.map fun member => (member.name, member.deserialized)

/-- Call a converter, where the functions of the declared models are known. -/
def call (dates : Dates D) (models : List ModelDecl) :
    Nat → Converter → Value D → Except Stop (Value D)
  | _, .dateToText, .date value => .ok (.text (dates.isoText value))
  | _, .dateToText, .invalidDate => .error .rangeError
  | _, .dateToText, _ => .error .typeError
  | _, .textToDate, value => .ok ((dates.construct value).elim .invalidDate .date)
  | 0, _, _ => .error .tooDeep
  | fuel + 1, .toWire name, value =>
    match models.find? (·.name == name) with
    | none => .error (.unknownFunction (serializerName name))
    | some model => literal (eval (call dates models fuel) value) (wireEntries model)
  | fuel + 1, .fromWire name, value =>
    match models.find? (·.name == name) with
    | none => .error (.unknownFunction (deserializerName name))
    | some model => literal (eval (call dates models fuel) value) (memoryEntries model)

/-! ### Results with enough fuel -/

section Results

variable (dates : Dates D) (models : List ModelDecl)

def Returns (converter : Converter) (value result : Value D) : Prop :=
  ∃ depth, ∀ fuel ≥ depth, call dates models fuel converter value = .ok result

def Evaluates (m : Value D) (expr : Expr) (result : Value D) : Prop :=
  ∃ depth, ∀ fuel ≥ depth, eval (call dates models fuel) m expr = .ok result

end Results

variable {dates : Dates D} {models : List ModelDecl}

/-- A call has at most one result. -/
theorem Returns.unique {converter : Converter} {value a b : Value D}
    (first : Returns dates models converter value a)
    (second : Returns dates models converter value b) : a = b := by
  obtain ⟨m, runFirst⟩ := first
  obtain ⟨n, runSecond⟩ := second
  have same := (runFirst (max m n) (by omega)).symm.trans
    (runSecond (max m n) (by omega))
  exact Except.ok.inj same

theorem enough_for_all {α : Type} {xs : List α} {p : Nat → α → Prop}
    (each : ∀ x ∈ xs, ∃ depth, ∀ fuel ≥ depth, p fuel x) :
    ∃ depth, ∀ fuel ≥ depth, ∀ x ∈ xs, p fuel x := by
  induction xs with
  | nil => exact ⟨0, fun _ _ _ member => absurd member List.not_mem_nil⟩
  | cons x xs ih =>
    obtain ⟨m, first⟩ := each x List.mem_cons_self
    obtain ⟨n, others⟩ := ih fun y later => each y (List.mem_cons_of_mem _ later)
    refine ⟨max m n, fun fuel enough y member => ?_⟩
    rcases List.mem_cons.mp member with rfl | later
    · exact first fuel (by omega)
    · exact others fuel (by omega) y later

theorem enough_for_forall₂ {α β : Type} {xs : List α} {ys : List β} {R : Nat → α → β → Prop}
    (each : List.Forall₂ (fun x y => ∃ depth, ∀ fuel ≥ depth, R fuel x y) xs ys) :
    ∃ depth, ∀ fuel ≥ depth, List.Forall₂ (R fuel) xs ys := by
  induction each with
  | nil => exact ⟨0, fun _ _ => .nil⟩
  | cons head _ ih =>
    obtain ⟨m, first⟩ := head
    obtain ⟨n, others⟩ := ih
    exact ⟨max m n, fun fuel enough =>
      .cons (first fuel (by omega))
        (others fuel (by omega))⟩

theorem Returns.dateToText (date : D) :
    Returns dates models .dateToText (.date date) (.text (dates.isoText date)) :=
  ⟨0, fun _ _ => by simp only [call]⟩

theorem Returns.textToDate (value : Value D) :
    Returns dates models .textToDate value ((dates.construct value).elim .invalidDate .date) :=
  ⟨0, fun _ _ => by simp only [call]⟩

namespace Evaluates

variable {m : Value D}

theorem member {key : String} {value : Value D} (read : m.member key = .ok value) :
    Evaluates dates models m (.member key) value :=
  ⟨0, fun _ _ => read⟩

theorem constant (value : Constant) :
    Evaluates dates models m (.constant value) (constantValue value) :=
  ⟨0, fun _ _ => rfl⟩

theorem convert {converter : Converter} {expr : Expr} {argument result : Value D}
    (value : Evaluates dates models m expr argument)
    (returns : Returns dates models converter argument result) :
    Evaluates dates models m (.convert converter expr) result := by
  obtain ⟨a, runValue⟩ := value
  obtain ⟨b, runCall⟩ := returns
  refine ⟨max a b, fun fuel enough => ?_⟩
  exact bind_eq_ok.mpr ⟨argument, runValue fuel (by omega),
    runCall fuel (by omega)⟩

theorem convertEach {converter : Converter} {expr : Expr} {items results : List (Value D)}
    (values : Evaluates dates models m expr (.array items))
    (each : List.Forall₂ (Returns dates models converter) items results) :
    Evaluates dates models m (.convertEach converter expr) (.array results) := by
  obtain ⟨a, runValues⟩ := values
  obtain ⟨b, runCalls⟩ := enough_for_forall₂ each
  refine ⟨max a b, fun fuel enough => ?_⟩
  refine bind_eq_ok.mpr ⟨.array items, runValues fuel (by omega), ?_⟩
  exact bind_eq_ok.mpr
    ⟨results, mapM_eq_ok.mpr (runCalls fuel (by omega)), rfl⟩

theorem present {tested present absent : Expr} {value result : Value D}
    (test : Evaluates dates models m tested value) (held : value.isPresent = true)
    (chosen : Evaluates dates models m present result) :
    Evaluates dates models m (.ifPresent tested present absent) result := by
  obtain ⟨a, runTest⟩ := test
  obtain ⟨b, runChosen⟩ := chosen
  refine ⟨max a b, fun fuel enough => ?_⟩
  refine bind_eq_ok.mpr ⟨value, runTest fuel (by omega), ?_⟩
  rw [if_pos held]
  exact runChosen fuel (by omega)

theorem absent {tested present absent : Expr} {value result : Value D}
    (test : Evaluates dates models m tested value) (missing : value.isPresent = false)
    (chosen : Evaluates dates models m absent result) :
    Evaluates dates models m (.ifPresent tested present absent) result := by
  obtain ⟨a, runTest⟩ := test
  obtain ⟨b, runChosen⟩ := chosen
  refine ⟨max a b, fun fuel enough => ?_⟩
  refine bind_eq_ok.mpr ⟨value, runTest fuel (by omega), ?_⟩
  rw [if_neg (Bool.eq_false_iff.mp missing)]
  exact runChosen fuel (by omega)

end Evaluates

/-- Members that agree with a map, and leave out none of its keys, are found as the map says. -/
theorem lookup_eq {members : List (String × Value D)} {get : String → Option (Value D)}
    (agree : ∀ member ∈ members, get member.1 = some member.2)
    (only : ∀ key, key ∉ members.map (·.1) → get key = none) (key : String) :
    members.lookup key = get key := by
  cases found : members.lookup key with
  | none =>
    refine (only key fun member => ?_).symm
    obtain ⟨entry, present, rfl⟩ := List.mem_map.mp member
    exact absurd (List.lookup_eq_none_iff.mp found entry present) (by simp)
  | some value =>
    obtain ⟨before, after, rfl, _⟩ := List.lookup_eq_some_iff.mp found
    exact (agree (key, value) (by simp)).symm

/-- An object has the keys of its literal and no others. -/
theorem literal_eq_ok {evaluate : Expr → Except Stop (Value D)} {entries : List (String × Expr)}
    {get : String → Option (Value D)}
    (evaluated : ∀ entry ∈ entries, ∃ value, get entry.1 = some value ∧
      evaluate entry.2 = .ok value)
    (only : ∀ key, key ∉ entries.map (·.1) → get key = none) :
    literal evaluate entries = .ok (.object get) := by
  let valued (entry : String × Expr) : String × Value D :=
    (entry.1, (get entry.1).getD .undefined)
  have run : entries.mapM (fun (key, expr) => do return (key, ← evaluate expr)) =
      .ok (entries.map valued) := by
    refine mapM_eq_ok.mpr (List.forall₂_map_right_iff.mpr (List.forall₂_same.mpr ?_))
    intro entry member
    obtain ⟨value, found, result⟩ := evaluated entry member
    exact bind_eq_ok.mpr ⟨value, result, by simp [valued, found, pure, Except.pure]⟩
  refine bind_eq_ok.mpr ⟨entries.map valued, run, ?_⟩
  -- Entries with one key agree, so that it does not matter which of them counts.
  have members : (fun key => (entries.map valued).reverse.lookup key) = get := by
    funext key
    refine lookup_eq ?_ ?_ key
    · intro member present
      obtain ⟨entry, declared, rfl⟩ := List.mem_map.mp (List.mem_reverse.mp present)
      obtain ⟨value, found, _⟩ := evaluated entry declared
      simp [valued, found]
    · intro key absent
      refine only key fun declared => absent ?_
      simpa [valued] using declared
  rw [members]
  rfl

theorem literal_returns {m : Value D} {entries : List (String × Expr)}
    {get : String → Option (Value D)}
    (evaluated : ∀ entry ∈ entries, ∃ value, get entry.1 = some value ∧
      Evaluates dates models m entry.2 value)
    (only : ∀ key, key ∉ entries.map (·.1) → get key = none) :
    ∃ depth, ∀ fuel ≥ depth,
      literal (eval (call dates models fuel) m) entries = .ok (.object get) := by
  have each : ∀ entry ∈ entries, ∃ depth, ∀ fuel ≥ depth, ∃ value, get entry.1 = some value ∧
      eval (call dates models fuel) m entry.2 = .ok value := by
    intro entry member
    obtain ⟨value, found, depth, run⟩ := evaluated entry member
    exact ⟨depth, fun fuel enough => ⟨value, found, run fuel enough⟩⟩
  obtain ⟨depth, run⟩ := enough_for_all each
  exact ⟨depth, fun fuel enough => literal_eq_ok (run fuel enough) only⟩

theorem Returns.toWire {model : ModelDecl} {m : Value D} {get : String → Option (Value D)}
    (distinct : (models.map (·.name)).Nodup) (declared : model ∈ models)
    (evaluated : ∀ entry ∈ wireEntries model, ∃ value, get entry.1 = some value ∧
      Evaluates dates models m entry.2 value)
    (only : ∀ key, key ∉ (wireEntries model).map (·.1) → get key = none) :
    Returns dates models (.toWire model.name) m (.object get) := by
  obtain ⟨depth, run⟩ := literal_returns evaluated only
  refine ⟨depth + 1, fun fuel enough => ?_⟩
  obtain ⟨fuel, rfl⟩ : ∃ inner, fuel = inner + 1 := ⟨fuel - 1, by omega⟩
  rw [call, find?_eq_some_of_nodup distinct declared]
  exact run fuel (by omega)

theorem Returns.fromWire {model : ModelDecl} {m : Value D} {get : String → Option (Value D)}
    (distinct : (models.map (·.name)).Nodup) (declared : model ∈ models)
    (evaluated : ∀ entry ∈ memoryEntries model, ∃ value, get entry.1 = some value ∧
      Evaluates dates models m entry.2 value)
    (only : ∀ key, key ∉ (memoryEntries model).map (·.1) → get key = none) :
    Returns dates models (.fromWire model.name) m (.object get) := by
  obtain ⟨depth, run⟩ := literal_returns evaluated only
  refine ⟨depth + 1, fun fuel enough => ?_⟩
  obtain ⟨fuel, rfl⟩ : ∃ inner, fuel = inner + 1 := ⟨fuel - 1, by omega⟩
  rw [call, find?_eq_some_of_nodup distinct declared]
  exact run fuel (by omega)

end FlowClients.Script
