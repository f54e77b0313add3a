import FlowClients.Failure
import Mathlib.Data.List.Forall2

/-!
What the success of a computation with errors says about its steps. A run over a list is opened by
one law for each shape of run, and a fold by what each of its steps preserves.
-/

namespace FlowClients

variable {α β σ : Type} {ε : Type}

theorem bind_eq_ok {first : Except ε α} {next : α → Except ε β} {b : β} :
    (first >>= next) = .ok b ↔ ∃ a, first = .ok a ∧ next a = .ok b := by
  cases first <;> simp [bind, Except.bind]

theorem pure_eq_ok {a b : α} : (pure a : Except ε α) = .ok b ↔ a = b := by
  simp only [pure, Except.pure, Except.ok.injEq]

theorem throw_ne_ok {e : ε} {a : α} : (throw e : Except ε α) ≠ .ok a := by
  simp [throw, throwThe, MonadExceptOf.throw]

theorem discard_eq_ok {first : Except ε α} {u : Unit} :
    discard first = .ok u ↔ ∃ a, first = .ok a := by
  cases first <;> simp [discard, Functor.mapConst, Except.map]

theorem orFailed_eq_ok {cause : ε → Failure} {result : Except ε α} {a : α} :
    orFailed cause result = .ok a ↔ result = .ok a := by
  cases result <;> simp [orFailed, Except.mapError]

/-- A list is mapped successfully exactly when every element is, in order. -/
theorem mapM_eq_ok {f : α → Except ε β} {xs : List α} {ys : List β} :
    xs.mapM f = .ok ys ↔ List.Forall₂ (fun x y => f x = .ok y) xs ys := by
  induction xs generalizing ys with
  | nil =>
    rw [List.mapM_nil, pure_eq_ok, List.forall₂_nil_left_iff]
    exact eq_comm
  | cons x xs ih =>
    simp only [List.mapM_cons, bind_eq_ok, pure_eq_ok, List.forall₂_cons_left_iff, ih]
    constructor
    · rintro ⟨y, atHead, ys, atTail, rfl⟩
      exact ⟨y, ys, atHead, atTail, rfl⟩
    · rintro ⟨y, ys, atHead, atTail, rfl⟩
      exact ⟨y, atHead, ys, atTail, rfl⟩

/-- A run through a list succeeds exactly when it succeeds at every element. -/
theorem forM_eq_ok {f : α → Except ε Unit} {xs : List α} :
    xs.forM f = .ok () ↔ ∀ x ∈ xs, f x = .ok () := by
  induction xs with
  | nil => simp [List.forM, pure, Except.pure]
  | cons x xs ih =>
    show (f x >>= fun _ => xs.forM f) = .ok () ↔ _
    simp only [bind_eq_ok, ih, List.mem_cons, forall_eq_or_imp]
    exact ⟨fun ⟨_, atHead, atTail⟩ => ⟨atHead, atTail⟩, fun ⟨atHead, atTail⟩ => ⟨(), atHead, atTail⟩⟩

theorem exists_of_mem_forall₂ {R : α → β → Prop} {xs : List α} {ys : List β} {y : β}
    (related : List.Forall₂ R xs ys) (member : y ∈ ys) : ∃ x ∈ xs, R x y := by
  induction related with
  | nil => cases member
  | cons head _ ih =>
    rcases List.mem_cons.mp member with rfl | later
    · exact ⟨_, List.mem_cons_self, head⟩
    · obtain ⟨x, present, relation⟩ := ih later
      exact ⟨x, List.mem_cons_of_mem _ present, relation⟩

/-- In related lists every element on the left is one of its list. -/
theorem forall₂_and_mem {R : α → β → Prop} {xs : List α} {ys : List β}
    (related : List.Forall₂ R xs ys) : List.Forall₂ (fun x y => x ∈ xs ∧ R x y) xs ys :=
  (List.forall₂_and_left _ _).mpr ⟨fun _ member => member, related⟩

theorem exists_forall₂ {R : α → β → Prop} {xs : List α}
    (each : ∀ x ∈ xs, ∃ y, R x y) : ∃ ys, List.Forall₂ R xs ys := by
  induction xs with
  | nil => exact ⟨[], .nil⟩
  | cons x xs ih =>
    obtain ⟨y, head⟩ := each x List.mem_cons_self
    obtain ⟨ys, tail⟩ := ih fun z later => each z (List.mem_cons_of_mem _ later)
    exact ⟨y :: ys, .cons head tail⟩

theorem map_eq_of_forall₂ {R : α → β → Prop} {f : α → σ} {g : β → σ} {xs : List α} {ys : List β}
    (related : List.Forall₂ R xs ys) (agree : ∀ x y, R x y → g y = f x) : ys.map g = xs.map f := by
  induction related with
  | nil => rfl
  | cons head _ ih => rw [List.map_cons, List.map_cons, agree _ _ head, ih]

theorem flatMap_eq_of_forall₂ {R : α → β → Prop} {f : α → List σ} {g : β → List σ} {xs : List α}
    {ys : List β} (related : List.Forall₂ R xs ys) (agree : ∀ x y, R x y → g y = f x) :
    ys.flatMap g = xs.flatMap f := by
  rw [List.flatMap_def, List.flatMap_def, map_eq_of_forall₂ related agree]

theorem filter_forall₂ {R : α → β → Prop} {p : α → Bool} {q : β → Bool} {xs : List α} {ys : List β}
    (related : List.Forall₂ R xs ys) (agree : ∀ x y, R x y → q y = p x) :
    List.Forall₂ R (xs.filter p) (ys.filter q) :=
  List.rel_filter (fun x y relation => Bool.eq_iff_iff.mp (agree x y relation).symm) related

/-- What holds of the elements gone through, and is kept by every successful step, holds of the
whole list once a fold over it has succeeded. -/
theorem foldlM_preserves {f : σ → α → Except ε σ} (holds : σ → List α → Prop)
    (step : ∀ s done x t, holds s done → f s x = .ok t → holds t (done ++ [x]))
    {xs : List α} {s t : σ} (before : holds s []) (run : xs.foldlM f s = .ok t) : holds t xs := by
  have general : ∀ done, holds s done → holds t (done ++ xs) := by
    clear before
    induction xs generalizing s with
    | nil =>
      intro done before
      rw [List.foldlM_nil, pure_eq_ok] at run
      simpa only [List.append_nil, ← run] using before
    | cons x xs ih =>
      intro done before
      rw [List.foldlM_cons, bind_eq_ok] at run
      obtain ⟨middle, first, rest⟩ := run
      have after := ih rest (done ++ [x]) (step s done x middle before first)
      simpa only [List.append_assoc, List.singleton_append] using after
  exact general [] before

/-- A fold that succeeds has taken a successful step at every element. -/
theorem exists_step_of_foldlM {f : σ → α → Except ε σ} {xs : List α} {s t : σ} {x : α}
    (run : xs.foldlM f s = .ok t) (member : x ∈ xs) : ∃ before after, f before x = .ok after := by
  refine foldlM_preserves (fun _ done => ∀ x ∈ done, ∃ before after, f before x = .ok after)
    ?_ nofun run x member
  intro before done y after taken step x member
  rcases List.mem_append.mp member with earlier | last
  · exact taken x earlier
  · rw [List.mem_singleton.mp last]
    exact ⟨before, after, step⟩

end FlowClients
