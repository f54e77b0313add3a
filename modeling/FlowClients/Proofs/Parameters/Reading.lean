import FlowClients.Proofs.Naming
import FlowClients.Proofs.Sorted
import FlowClients.Version
import Mathlib.Data.List.TakeDrop
import Mathlib.Data.List.TakeWhile
import Mathlib.Data.String.Basic

/-!
What reading a plugin parameter comes to. Each part between commas is empty, bare, or binds a key.
The reading fails at the first bare part and nowhere else; without one, a key has the value that the
last part with this key gives it.
-/

namespace FlowClients

/-! ### Tables of bindings -/

namespace Bindings

/-- The keys are in strictly increasing order, so that no two of them are the same. -/
def Increasing (bindings : Bindings) : Prop := bindings.Pairwise (·.1 < ·.1)

theorem bindingOrder : StrictOrder fun a b : String × String => decide (a.1 < b.1) where
  irrefl a := decide_eq_false (lt_irrefl a.1)
  trans first second :=
    decide_eq_true ((of_decide_eq_true first).trans (of_decide_eq_true second))
  tied := by
    intro a b c notBelow notAbove below
    have same : a.1 = b.1 := le_antisymm (not_lt.mp (of_decide_eq_false notAbove))
      (not_lt.mp (of_decide_eq_false notBelow))
    rwa [same]

theorem get?_put (bindings : Bindings) (key value wanted : String) :
    (bindings.put key value).get? wanted =
      if key = wanted then some value else bindings.get? wanted := by
  unfold put get?
  induction bindings with
  | nil => by_cases same : key = wanted <;> simp [insertSorted, same]
  | cons first rest ih =>
    unfold insertSorted
    split
    · by_cases same : key = wanted <;> simp [same]
    · rename_i notBelow
      split
      · rename_i above
        by_cases found : first.1 = wanted
        · have apart : key ≠ wanted := by
            rintro rfl
            simp [found] at above
          simp [found, apart]
        · rw [List.find?_cons_of_neg (by simpa using found), ih,
            List.find?_cons_of_neg (by simpa using found)]
      · -- the new binding takes the place of one with the same key
        rename_i notAbove
        have same : key = first.1 := le_antisymm
          (not_lt.mp fun above => notAbove (decide_eq_true above))
          (not_lt.mp fun below => notBelow (decide_eq_true below))
        by_cases found : first.1 = wanted <;> simp [same, found]

variable {bindings others : Bindings}

theorem Increasing.put (increasing : bindings.Increasing) (key value : String) :
    (bindings.put key value).Increasing := by
  have sorted := bindingOrder.insertSorted (x := (key, value))
    (increasing.imp fun below => decide_eq_true below)
  exact sorted.imp fun below => of_decide_eq_true below

theorem Increasing.mem_iff (increasing : bindings.Increasing) {key value : String} :
    (key, value) ∈ bindings ↔ bindings.get? key = some value := by
  have distinct : (bindings.map (·.1)).Nodup := List.pairwise_map.mpr (increasing.imp ne_of_lt)
  rw [get?, Option.map_eq_some_iff]
  constructor
  · intro member
    exact ⟨_, find?_eq_some_of_nodup distinct member, rfl⟩
  · rintro ⟨⟨_, _⟩, found, rfl⟩
    have named := List.find?_some found
    cases beq_iff_eq.mp named
    exact List.mem_of_find?_eq_some found

/-- A table is determined by the bindings in it. -/
theorem Increasing.eq_of_mem_iff (increasing : bindings.Increasing) (also : others.Increasing)
    (same : ∀ key value, (key, value) ∈ bindings ↔ (key, value) ∈ others) : bindings = others :=
  bindingOrder.eq_of_mem_iff (increasing.imp fun below => decide_eq_true below)
    (also.imp fun below => decide_eq_true below) fun pair => same pair.1 pair.2

end Bindings

namespace Parameter

/-! ### Parts -/

/-- The parts of a parameter between its commas, trimmed. -/
def parts (parameter : String) : List (List Char) :=
  (parameter.toList.splitOn ',').map Text.trim

/-- The part is not empty and has no equals sign. -/
def IsBare (part : List Char) : Prop := part ≠ [] ∧ '=' ∉ part

instance : DecidablePred IsBare := fun _ => inferInstanceAs (Decidable (_ ∧ _))

/-- The key is the text before the first equals sign of the part and the value the text after it,
both trimmed. -/
def Binds (part : List Char) (key value : String) : Prop :=
  ∃ before after, part = before ++ '=' :: after ∧ '=' ∉ before ∧
    String.ofList (Text.trim before) = key ∧ String.ofList (Text.trim after) = value

/-- The part is bare, and no part before it is. -/
def FirstBare (parts : List (List Char)) (part : List Char) : Prop :=
  ∃ front rest, parts = front ++ part :: rest ∧ IsBare part ∧
    ∀ earlier ∈ front, ¬ IsBare earlier

def NoneBinds (parts : List (List Char)) (key : String) : Prop :=
  ∀ part ∈ parts, ∀ value, ¬ Binds part key value

/-- One of the parts binds the key to the value, and none after it binds the key again. -/
def LastBinds (parts : List (List Char)) (key value : String) : Prop :=
  ∃ front part rest, parts = front ++ part :: rest ∧ Binds part key value ∧ NoneBinds rest key

variable {part : List Char} {rest parts : List (List Char)} {key value : String}

theorem forall_bne_equals (noEquals : '=' ∉ part) : ∀ c ∈ part, (c != '=') = true :=
  fun _ member => bne_iff_ne.mpr fun same => noEquals (same ▸ member)

theorem binding_of_bare (noEquals : '=' ∉ part) :
    binding part = .error (.keyWithoutValue (String.ofList part)) := by
  have others := forall_bne_equals noEquals
  have cut : part.span (· != '=') = (part, []) := by
    rw [List.span_eq_takeWhile_dropWhile, List.takeWhile_eq_self_iff.mpr others,
      List.dropWhile_eq_nil_iff.mpr others]
  rw [binding, cut]

theorem binding_of_equals {before : List Char} (noEquals : '=' ∉ before) (after : List Char) :
    binding (before ++ '=' :: after) =
      .ok (String.ofList (Text.trim before), String.ofList (Text.trim after)) := by
  have others := forall_bne_equals noEquals
  have cut : (before ++ '=' :: after).span (· != '=') = (before, '=' :: after) := by
    rw [List.span_eq_takeWhile_dropWhile, List.takeWhile_append_of_pos others,
      List.dropWhile_append_of_pos others]
    simp
  rw [binding, cut]

theorem binding_eq_ok : binding part = .ok (key, value) ↔ Binds part key value := by
  by_cases equals : '=' ∈ part
  · obtain ⟨before, after, rfl, noEquals⟩ := List.eq_append_cons_of_mem equals
    rw [binding_of_equals noEquals]
    constructor
    · rintro ⟨⟩
      exact ⟨before, after, rfl, noEquals, rfl, rfl⟩
    · rintro ⟨otherBefore, otherAfter, split, otherNoEquals, rfl, rfl⟩
      have run := binding_of_equals otherNoEquals otherAfter
      rwa [← split, binding_of_equals noEquals] at run
  · rw [binding_of_bare equals]
    refine iff_of_false nofun ?_
    rintro ⟨before, after, rfl, _⟩
    simp at equals

theorem part_cases (part : List Char) :
    part = [] ∨ IsBare part ∨ ∃ key value, Binds part key value := by
  by_cases empty : part = []
  · exact Or.inl empty
  · by_cases equals : '=' ∈ part
    · obtain ⟨before, after, split, noEquals⟩ := List.eq_append_cons_of_mem equals
      exact Or.inr (Or.inr ⟨_, _, before, after, split, noEquals, rfl, rfl⟩)
    · exact Or.inr (Or.inl ⟨empty, equals⟩)

theorem not_isBare_nil : ¬ IsBare [] := fun bare => bare.1 rfl

theorem not_binds_nil : ¬ Binds [] key value := by
  rintro ⟨before, after, split, _⟩
  cases before <;> cases split

theorem Binds.not_isBare (binds : Binds part key value) : ¬ IsBare part := by
  obtain ⟨before, after, rfl, _⟩ := binds
  exact fun bare => bare.2 (by simp)

theorem Binds.unique {otherKey otherValue : String} (binds : Binds part key value)
    (other : Binds part otherKey otherValue) : otherKey = key ∧ otherValue = value := by
  have same := (binding_eq_ok.mpr other).symm.trans (binding_eq_ok.mpr binds)
  cases same
  exact ⟨rfl, rfl⟩

/-! ### The first bare part and the last part with a key -/

theorem firstBare_of_bare (bare : IsBare part) {wanted : List Char} :
    FirstBare (part :: rest) wanted ↔ wanted = part := by
  constructor
  · rintro ⟨front, others, split, _, earlier⟩
    cases front with
    | nil =>
      cases split
      rfl
    | cons first front =>
      cases split
      exact absurd bare (earlier _ List.mem_cons_self)
  · rintro rfl
    exact ⟨[], rest, rfl, bare, nofun⟩

theorem firstBare_of_not_bare (solid : ¬ IsBare part) {wanted : List Char} :
    FirstBare (part :: rest) wanted ↔ FirstBare rest wanted := by
  constructor
  · rintro ⟨front, others, split, bare, earlier⟩
    cases front with
    | nil =>
      cases split
      exact absurd bare solid
    | cons first front =>
      cases split
      exact ⟨front, others, rfl, bare, fun part member =>
        earlier part (List.mem_cons_of_mem _ member)⟩
  · rintro ⟨front, others, rfl, bare, earlier⟩
    exact ⟨part :: front, others, rfl, bare, List.forall_mem_cons.mpr ⟨solid, earlier⟩⟩

theorem exists_firstBare : (∃ part, FirstBare parts part) ↔ ∃ part ∈ parts, IsBare part := by
  constructor
  · rintro ⟨part, front, rest, rfl, bare, _⟩
    exact ⟨part, by simp, bare⟩
  · intro bare
    induction parts with
    | nil => simp at bare
    | cons part rest ih =>
      by_cases here : IsBare part
      · exact ⟨part, (firstBare_of_bare here).mpr rfl⟩
      · have later : ∃ part ∈ rest, IsBare part := by simpa [here] using bare
        obtain ⟨first, isFirst⟩ := ih later
        exact ⟨first, (firstBare_of_not_bare here).mpr isFirst⟩

theorem noneBinds_cons : NoneBinds (part :: rest) key ↔
    (∀ value, ¬ Binds part key value) ∧ NoneBinds rest key :=
  List.forall_mem_cons

theorem lastBinds_cons : LastBinds (part :: rest) key value ↔
    LastBinds rest key value ∨ Binds part key value ∧ NoneBinds rest key := by
  constructor
  · rintro ⟨front, last, others, split, binds, none⟩
    cases front with
    | nil =>
      cases split
      exact Or.inr ⟨binds, none⟩
    | cons first front =>
      cases split
      exact Or.inl ⟨front, last, others, rfl, binds, none⟩
  · rintro (⟨front, last, others, rfl, binds, none⟩ | ⟨binds, none⟩)
    · exact ⟨part :: front, last, others, rfl, binds, none⟩
    · exact ⟨[], part, rest, rfl, binds, none⟩

theorem not_lastBinds_nil : ¬ LastBinds [] key value := by
  rintro ⟨front, part, rest, split, _⟩
  cases front <;> cases split

theorem LastBinds.not_noneBinds (last : LastBinds parts key value) : ¬ NoneBinds parts key := by
  obtain ⟨front, part, rest, rfl, binds, _⟩ := last
  exact fun none => none part (by simp) value binds

theorem LastBinds.unique {otherValue : String} (last : LastBinds parts key value)
    (other : LastBinds parts key otherValue) : value = otherValue := by
  induction parts with
  | nil => exact absurd last not_lastBinds_nil
  | cons part rest ih =>
    rcases lastBinds_cons.mp last with later | ⟨binds, none⟩ <;>
      rcases lastBinds_cons.mp other with otherLater | ⟨otherBinds, otherNone⟩
    · exact ih later otherLater
    · exact absurd otherNone later.not_noneBinds
    · exact absurd none otherLater.not_noneBinds
    · exact (otherBinds.unique binds).2

/-- Where some part binds a key, there is a last one that does. -/
theorem exists_lastBinds : (∃ value, LastBinds parts key value) ↔ ¬ NoneBinds parts key := by
  refine ⟨fun ⟨_, last⟩ => last.not_noneBinds, fun bound => ?_⟩
  induction parts with
  | nil => exact absurd (fun _ member => nomatch member) bound
  | cons part rest ih =>
    by_cases later : NoneBinds rest key
    · obtain ⟨value, binds⟩ : ∃ value, Binds part key value := by
        by_contra missing
        exact bound (noneBinds_cons.mpr ⟨not_exists.mp missing, later⟩)
      exact ⟨value, lastBinds_cons.mpr (Or.inr ⟨binds, later⟩)⟩
    · obtain ⟨value, last⟩ := ih later
      exact ⟨value, lastBinds_cons.mpr (Or.inl last)⟩

/-! ### Reading part after part -/

/-- Add what further parts bind to known bindings. -/
def readParts (known : Bindings) (parts : List (List Char)) : Except ParameterError Bindings :=
  (parts.filter (!·.isEmpty)).foldlM (fun known part => do
    let (key, value) ← binding part
    return known.put key value) known

theorem bindings_eq (parameter : String) :
    bindings parameter = readParts [] (Parameter.parts parameter) := rfl

variable {known final : Bindings}

theorem readParts_empty : readParts known ([] :: rest) = readParts known rest := rfl

theorem readParts_bare (bare : IsBare part) :
    readParts known (part :: rest) = .error (.keyWithoutValue (String.ofList part)) := by
  have kept : (!part.isEmpty) = true := by simpa using bare.1
  rw [readParts, List.filter_cons, if_pos kept, List.foldlM_cons, binding_of_bare bare.2]
  rfl

theorem readParts_binds (binds : Binds part key value) :
    readParts known (part :: rest) = readParts (known.put key value) rest := by
  have run := binding_eq_ok.mpr binds
  have kept : (!part.isEmpty) = true := by
    obtain ⟨before, after, rfl, _⟩ := binds
    cases before <;> rfl
  rw [readParts, List.filter_cons, if_pos kept, List.foldlM_cons, run]
  rfl

theorem readParts_append (known : Bindings) (first second : List (List Char)) :
    readParts known (first ++ second) = (readParts known first >>= (readParts · second)) := by
  rw [readParts, List.filter_append, List.foldlM_append]
  rfl

/-- Whatever is known already, the reading fails because of the first bare part. -/
theorem readParts_eq_error {error : ParameterError} : readParts known parts = .error error ↔
    ∃ part, FirstBare parts part ∧ error = .keyWithoutValue (String.ofList part) := by
  induction parts generalizing known with
  | nil =>
    refine iff_of_false nofun ?_
    rintro ⟨part, ⟨front, rest, split, _⟩, _⟩
    cases front <;> cases split
  | cons part rest ih =>
    rcases part_cases part with rfl | bare | ⟨key, value, binds⟩
    · simp only [readParts_empty, ih, firstBare_of_not_bare not_isBare_nil]
    · simp only [readParts_bare bare, firstBare_of_bare bare, exists_eq_left, Except.error.injEq]
      exact eq_comm
    · simp only [readParts_binds binds, ih, firstBare_of_not_bare binds.not_isBare]

theorem exists_of_readParts (known : Bindings) (solid : ∀ part ∈ parts, ¬ IsBare part) :
    ∃ final, readParts known parts = .ok final := by
  cases run : readParts known parts with
  | ok final => exact ⟨final, rfl⟩
  | error error =>
    obtain ⟨part, first, _⟩ := readParts_eq_error.mp run
    obtain ⟨bare, member, isBare⟩ := exists_firstBare.mp ⟨part, first⟩
    exact absurd isBare (solid bare member)

theorem increasing_of_readParts (run : readParts known parts = .ok final)
    (increasing : known.Increasing) : final.Increasing := by
  induction parts generalizing known with
  | nil =>
    cases run
    exact increasing
  | cons part rest ih =>
    rcases part_cases part with rfl | bare | ⟨key, value, binds⟩
    · exact ih run increasing
    · rw [readParts_bare bare] at run
      cases run
    · rw [readParts_binds binds] at run
      exact ih run (increasing.put key value)

/-- Afterwards a key has the value that the last part with it gives it, or the one that it had if no
part binds it. -/
theorem get?_of_readParts (run : readParts known parts = .ok final) (key value : String) :
    final.get? key = some value ↔
      LastBinds parts key value ∨ NoneBinds parts key ∧ known.get? key = some value := by
  induction parts generalizing known with
  | nil =>
    cases run
    simp [not_lastBinds_nil, NoneBinds]
  | cons part rest ih =>
    rcases part_cases part with rfl | bare | ⟨boundKey, boundValue, binds⟩
    · rw [readParts_empty] at run
      rw [ih run, lastBinds_cons, noneBinds_cons]
      simp [not_binds_nil]
    · rw [readParts_bare bare] at run
      cases run
    · rw [readParts_binds binds] at run
      rw [ih run, Bindings.get?_put, lastBinds_cons, noneBinds_cons]
      by_cases same : boundKey = key
      · subst same
        have here : ∀ other, Binds part boundKey other ↔ boundValue = other := fun other =>
          ⟨fun also => (binds.unique also).2.symm, fun same => same ▸ binds⟩
        simp [here, and_comm]
      · have apart : ∀ value, ¬ Binds part key value := fun value other =>
          same (binds.unique other).1.symm
        simp [same, apart]

/-! ### A whole parameter -/

variable {parameter : String}

theorem increasing_of_bindings (run : bindings parameter = .ok known) : known.Increasing :=
  increasing_of_readParts run List.Pairwise.nil

theorem get?_of_bindings (run : bindings parameter = .ok known) (key value : String) :
    known.get? key = some value ↔ LastBinds (Parameter.parts parameter) key value := by
  rw [bindings_eq] at run
  rw [get?_of_readParts run]
  simp [Bindings.get?]

theorem get?_eq_none_of_bindings (run : bindings parameter = .ok known) (key : String) :
    known.get? key = none ↔ NoneBinds (Parameter.parts parameter) key := by
  have bound : (∃ value, known.get? key = some value) ↔
      ¬ NoneBinds (Parameter.parts parameter) key := by
    simp only [get?_of_bindings run, exists_lastBinds]
  rw [← not_iff_not, ← bound]
  exact Option.ne_none_iff_exists'

end Parameter

end FlowClients
