import FlowClients.Sorted
import Mathlib.Data.List.Nodup

/-!
Sorting by insertion: what is inserted is there afterwards, and the list is strictly increasing.
-/

namespace FlowClients

variable {α : Type} {below : α → α → Bool} {x y : α} {xs : List α}

theorem self_mem_insertSorted : x ∈ insertSorted below x xs := by
  induction xs with
  | nil => exact List.mem_singleton_self x
  | cons head rest ih =>
    unfold insertSorted
    split
    · exact List.mem_cons_self
    · split
      · exact List.mem_cons_of_mem head ih
      · exact List.mem_cons_self

theorem eq_or_mem_of_mem_insertSorted (member : y ∈ insertSorted below x xs) :
    y = x ∨ y ∈ xs := by
  induction xs with
  | nil => exact Or.inl (List.mem_singleton.mp member)
  | cons head rest ih =>
    unfold insertSorted at member
    split at member
    · exact List.mem_cons.mp member
    · split at member
      · rcases List.mem_cons.mp member with same | later
        · exact Or.inr (List.mem_cons.mpr (Or.inl same))
        · exact (ih later).imp_right (List.mem_cons_of_mem head)
      · exact (List.mem_cons.mp member).imp_right (List.mem_cons_of_mem head)

/-- Only what is neither below nor above the new element gives way to it. -/
theorem mem_insertSorted_of_mem (member : y ∈ xs)
    (apart : below x y = true ∨ below y x = true) : y ∈ insertSorted below x xs := by
  induction xs with
  | nil => cases member
  | cons head rest ih =>
    unfold insertSorted
    split
    · exact List.mem_cons_of_mem x member
    · rename_i notBelow
      split
      · rcases List.mem_cons.mp member with same | later
        · exact List.mem_cons.mpr (Or.inl same)
        · exact List.mem_cons_of_mem head (ih later)
      · rename_i notAbove
        rcases List.mem_cons.mp member with rfl | later
        · exact absurd apart (not_or.mpr ⟨notBelow, notAbove⟩)
        · exact List.mem_cons_of_mem x later

theorem mem_of_mem_sorted (member : y ∈ xs.foldr (insertSorted below) []) : y ∈ xs := by
  induction xs with
  | nil => exact member
  | cons head rest ih =>
    rcases eq_or_mem_of_mem_insertSorted member with same | later
    · exact List.mem_cons.mpr (Or.inl same)
    · exact List.mem_cons_of_mem head (ih later)

/-- Sorting loses nothing where any two different elements are comparable. -/
theorem mem_sorted (total : ∀ a b, a ≠ b → below a b = true ∨ below b a = true) :
    y ∈ xs.foldr (insertSorted below) [] ↔ y ∈ xs := by
  refine ⟨mem_of_mem_sorted, fun member => ?_⟩
  induction xs with
  | nil => exact member
  | cons head rest ih =>
    by_cases same : y = head
    · subst same
      exact self_mem_insertSorted
    · have later := (List.mem_cons.mp member).resolve_left same
      exact mem_insertSorted_of_mem (ih later) (total head y (Ne.symm same))

/-- Nothing gives way to an element that is comparable to all others. -/
theorem perm_insertSorted (apart : ∀ y ∈ xs, below x y = true ∨ below y x = true) :
    (insertSorted below x xs).Perm (x :: xs) := by
  induction xs with
  | nil => exact List.Perm.refl _
  | cons head rest ih =>
    unfold insertSorted
    split
    · exact List.Perm.refl _
    · rename_i notBelow
      split
      · have inserted := ih fun y later => apart y (List.mem_cons_of_mem head later)
        exact (inserted.cons head).trans (List.Perm.swap x head rest)
      · rename_i notAbove
        exact absurd (apart head List.mem_cons_self) (not_or.mpr ⟨notBelow, notAbove⟩)

/-- Sorting only reorders a list whose elements are pairwise comparable. -/
theorem perm_sorted (apart : xs.Pairwise fun a b => below a b = true ∨ below b a = true) :
    (xs.foldr (insertSorted below) []).Perm xs := by
  induction xs with
  | nil => exact List.Perm.refl _
  | cons head rest ih =>
    obtain ⟨first, later⟩ := List.pairwise_cons.mp apart
    have sorted := ih later
    have inserted := perm_insertSorted fun y member => first y (sorted.subset member)
    exact inserted.trans (sorted.cons head)

/-- A strict order in which elements that are not comparable are below the same elements. -/
structure StrictOrder (below : α → α → Bool) : Prop where
  irrefl : ∀ a, below a a = false
  trans : ∀ {a b c}, below a b = true → below b c = true → below a c = true
  tied : ∀ {a b c}, below a b = false → below b a = false → below b c = true → below a c = true

theorem StrictOrder.insertSorted (order : StrictOrder below)
    (sorted : xs.Pairwise (below · · = true)) :
    (insertSorted below x xs).Pairwise (below · · = true) := by
  induction xs with
  | nil => exact List.pairwise_singleton _ x
  | cons head rest ih =>
    obtain ⟨first, later⟩ := List.pairwise_cons.mp sorted
    unfold FlowClients.insertSorted
    split
    · rename_i under
      refine List.pairwise_cons.mpr ⟨fun z member => ?_, sorted⟩
      rcases List.mem_cons.mp member with rfl | member
      · exact under
      · exact order.trans under (first z member)
    · rename_i notBelow
      split
      · rename_i above
        refine List.pairwise_cons.mpr ⟨fun z member => ?_, ih later⟩
        rcases eq_or_mem_of_mem_insertSorted member with rfl | member
        · exact above
        · exact first z member
      · rename_i notAbove
        exact List.pairwise_cons.mpr ⟨fun z member => order.tied (by simpa using notBelow)
          (by simpa using notAbove) (first z member), later⟩

theorem StrictOrder.sorted (order : StrictOrder below) (xs : List α) :
    (xs.foldr (FlowClients.insertSorted below) []).Pairwise (below · · = true) := by
  induction xs with
  | nil => exact List.Pairwise.nil
  | cons head rest ih => exact order.insertSorted ih

theorem StrictOrder.distinct (order : StrictOrder below)
    (increasing : xs.Pairwise (below · · = true)) : xs.Nodup := by
  refine increasing.imp fun {a b} under same => ?_
  rw [same, order.irrefl] at under
  cases under

theorem StrictOrder.nodup (order : StrictOrder below) (xs : List α) :
    (xs.foldr (FlowClients.insertSorted below) []).Nodup :=
  order.distinct (order.sorted xs)

/-- There is one way to list given elements in increasing order. -/
theorem StrictOrder.eq_of_mem_iff (order : StrictOrder below) {ys : List α}
    (increasing : xs.Pairwise (below · · = true)) (also : ys.Pairwise (below · · = true))
    (same : ∀ x, x ∈ xs ↔ x ∈ ys) : xs = ys := by
  have perm : xs.Perm ys :=
    (List.perm_ext_iff_of_nodup (order.distinct increasing) (order.distinct also)).mpr same
  refine perm.eq_of_pairwise (fun a b _ _ under above => ?_) increasing also
  have self := order.trans under above
  rw [order.irrefl] at self
  cases self

end FlowClients
