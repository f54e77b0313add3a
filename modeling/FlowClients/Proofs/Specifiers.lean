import FlowClients.Proofs.Files.Locations
import FlowClients.Specifier

/-!
Where module specifiers lead. A specifier is followed segment by segment from the directory of the
module that imports: a dot stays, two dots go up, any other segment goes down. The specifier from
one module to another never goes above the root, ends at the other module, and goes up no more often
than the shape of the two paths demands.
-/

namespace FlowClients.Specifier

/-- Where a segment leads from a directory; above the root there is nothing. -/
def step? (directory : List (List Char)) (segment : List Char) : Option (List (List Char)) :=
  if segment = ['.'] then some directory
  else if segment = ['.', '.'] then if directory = [] then none else some directory.dropLast
  else some (directory ++ [segment])

/-- Where segments lead from a directory, one after the other. -/
def follow? (directory segments : List (List Char)) : Option (List (List Char)) :=
  segments.foldlM step? directory

/-- A segment that neither stays nor goes up. -/
def GoesDown (segment : List Char) : Prop := segment ≠ ['.'] ∧ segment ≠ ['.', '.']

instance (segment : List Char) : Decidable (GoesDown segment) := inferInstanceAs (Decidable (_ ∧ _))

/-- How often segments go up. -/
def ups (segments : List (List Char)) : Nat := segments.count ['.', '.']

/-- All that two lists have in common from their beginning. -/
structure LongestShared (shared xs ys : List (List Char)) : Prop where
  first : shared <+: xs
  second : shared <+: ys
  longest : ∀ other, other <+: xs → other <+: ys → other <+: shared

/-! ### Shared directories -/

section Shared

variable {α : Type} [DecidableEq α]

theorem commonLength_le (xs ys : List α) :
    commonLength xs ys ≤ xs.length ∧ commonLength xs ys ≤ ys.length := by
  fun_induction commonLength xs ys with
  | case1 xs y ys ih => exact ⟨Nat.succ_le_succ ih.1, Nat.succ_le_succ ih.2⟩
  | case2 => exact ⟨Nat.zero_le _, Nat.zero_le _⟩
  | case3 => exact ⟨Nat.zero_le _, Nat.zero_le _⟩

theorem take_commonLength (xs ys : List α) :
    xs.take (commonLength xs ys) = ys.take (commonLength xs ys) := by
  fun_induction commonLength xs ys with
  | case1 xs y ys ih => rw [List.take_succ_cons, List.take_succ_cons, ih]
  | case2 => rfl
  | case3 => rfl

theorem prefix_take_commonLength {xs ys other : List α} (first : other <+: xs)
    (second : other <+: ys) : other <+: xs.take (commonLength xs ys) := by
  induction other generalizing xs ys with
  | nil => exact List.nil_prefix
  | cons x other ih =>
    obtain ⟨rest, rfl⟩ := first
    obtain ⟨later, rfl⟩ := second
    have within := ih (List.prefix_append other rest) (List.prefix_append other later)
    simp only [List.cons_append, commonLength, if_true, List.take_succ_cons]
    exact (List.prefix_cons_inj x).mpr within

theorem commonLength_eq_length_iff {xs ys : List α} :
    commonLength xs ys = xs.length ↔ xs <+: ys := by
  constructor
  · intro whole
    have shared := take_commonLength xs ys
    rw [whole, List.take_length] at shared
    exact shared ▸ List.take_prefix _ _
  · intro inside
    have all := (prefix_take_commonLength (List.prefix_refl xs) inside).length_le
    rw [List.length_take_of_le (commonLength_le xs ys).1] at all
    exact Nat.le_antisymm (commonLength_le xs ys).1 all

end Shared

theorem longestShared (xs ys : List (List Char)) :
    LongestShared (xs.take (commonLength xs ys)) xs ys where
  first := List.take_prefix _ _
  second := take_commonLength xs ys ▸ List.take_prefix _ _
  longest _ := prefix_take_commonLength

/-! ### Following segments -/

section Follow

variable {directory goal source target other : List (List Char)}

theorem follow?_append (directory front rest : List (List Char)) :
    follow? directory (front ++ rest) = (follow? directory front).bind (follow? · rest) :=
  List.foldlM_append

theorem step?_of_goesDown {segment : List Char} (down : GoesDown segment) :
    step? directory segment = some (directory ++ [segment]) := by
  rw [step?, if_neg down.1, if_neg down.2]

theorem follow?_down (directory : List (List Char)) {segments : List (List Char)}
    (down : ∀ segment ∈ segments, GoesDown segment) :
    follow? directory segments = some (directory ++ segments) := by
  induction segments generalizing directory with
  | nil => rw [List.append_nil]; rfl
  | cons segment rest ih =>
    have first : step? directory segment = some (directory ++ [segment]) :=
      step?_of_goesDown (down segment List.mem_cons_self)
    have later := ih (directory ++ [segment]) fun other member =>
      down other (List.mem_cons_of_mem segment member)
    rw [follow?, List.foldlM_cons, first]
    exact later.trans (by rw [List.append_assoc, List.singleton_append])

theorem dropLast_take (directory : List (List Char)) (count : Nat) :
    directory.dropLast.take (directory.dropLast.length - count) =
      directory.take (directory.length - (count + 1)) := by
  rw [List.dropLast_eq_take, List.take_take, List.length_take]
  congr 1
  omega

theorem follow?_up {count : Nat} (room : count ≤ directory.length) :
    follow? directory (List.replicate count ['.', '.']) =
      some (directory.take (directory.length - count)) := by
  induction count generalizing directory with
  | zero => rw [Nat.sub_zero, List.take_length]; rfl
  | succ count ih =>
    have inside : directory ≠ [] := List.length_pos_iff.mp (by omega)
    have up : step? directory ['.', '.'] = some directory.dropLast := by
      rw [step?, if_neg (by decide), if_pos rfl, if_neg inside]
    have later : follow? directory.dropLast (List.replicate count ['.', '.']) =
        some (directory.dropLast.take (directory.dropLast.length - count)) :=
      ih (by rw [List.length_dropLast]; omega)
    rw [List.replicate_succ, follow?, List.foldlM_cons, up, ← dropLast_take]
    exact later

/-- What is left of a directory after its last names have been dropped is kept: nothing but two dots
drops one, and they drop no more than one. -/
theorem take_prefix_of_follow? {segments : List (List Char)}
    (led : follow? directory segments = some goal) :
    directory.take (directory.length - ups segments) <+: goal := by
  induction segments generalizing directory with
  | nil =>
    cases led
    exact List.take_prefix _ _
  | cons segment rest ih =>
    rw [follow?, List.foldlM_cons] at led
    obtain ⟨middle, first, later⟩ := Option.bind_eq_some_iff.mp led
    have kept := ih later
    unfold step? at first
    split at first
    · rename_i stays
      cases first
      rwa [ups, List.count_cons_of_ne (by rw [stays]; decide)]
    split at first
    · rename_i up
      split at first
      · cases first
      · cases first
        rwa [ups, up, List.count_cons_self, ← ups, ← dropLast_take]
    · rename_i notUp
      cases first
      rw [ups, List.count_cons_of_ne notUp, ← ups]
      have shorter : directory.take (directory.length - ups rest) =
          (directory ++ [segment]).take (directory.length - ups rest) :=
        (List.take_append_of_le_length (Nat.sub_le _ _)).symm
      rw [shorter]
      refine List.IsPrefix.trans (List.take_prefix_take_left ?_) kept
      rw [List.length_append, List.length_singleton]
      omega

end Follow

/-! ### The way between modules -/

section Way

variable {source target other : List (List Char)}

theorem follow?_way (source : List (List Char)) (down : ∀ segment ∈ target, GoesDown segment) :
    follow? source.dropLast (way source target) = some target := by
  obtain ⟨room, within⟩ := commonLength_le source.dropLast target.dropLast
  have inside : target.dropLast.take (commonLength source.dropLast target.dropLast) <+: target :=
    (List.take_prefix _ _).trans (List.dropLast_prefix target)
  have back : target.dropLast.take (commonLength source.dropLast target.dropLast) =
      target.take (commonLength source.dropLast target.dropLast) := by
    rw [List.prefix_iff_eq_take.mp inside, List.length_take_of_le within]
  have forth : follow? (target.take (commonLength source.dropLast target.dropLast))
      (target.drop (commonLength source.dropLast target.dropLast)) = some target := by
    rw [follow?_down _ fun segment member => down segment (List.mem_of_mem_drop member),
      List.take_append_drop]
  rw [way, follow?_append, follow?_up (Nat.sub_le _ _), Nat.sub_sub_self room, take_commonLength,
    back]
  exact forth

theorem ups_way (source : List (List Char)) (down : ∀ segment ∈ target, GoesDown segment) :
    ups (way source target) + commonLength source.dropLast target.dropLast =
      source.dropLast.length := by
  have forward :
      (target.drop (commonLength source.dropLast target.dropLast)).count ['.', '.'] = 0 :=
    List.count_eq_zero.mpr fun member => (down _ (List.mem_of_mem_drop member)).2 rfl
  rw [ups, way, List.count_append, List.count_replicate_self, forward]
  exact Nat.sub_add_cancel (commonLength_le _ _).1

/-- What a way leaves of the directory it starts in begins the path of its target. Unless it is all
of that path, it is shared with the directory of the target. -/
theorem ups_way_le (down : ∀ segment ∈ target, GoesDown segment)
    (led : follow? source.dropLast other = some target)
    (naming : other.getLast? = target.getLast? ∨ ¬ target <+: source.dropLast) :
    ups (way source target) ≤ ups other := by
  have shared : source.dropLast.take (source.dropLast.length - ups other) <+: target.dropLast := by
    rcases target.eq_nil_or_concat' with rfl | ⟨front, last, rfl⟩
    · exact take_prefix_of_follow? led
    rw [List.dropLast_concat]
    rcases naming with same | apart
    · rw [List.getLast?_concat] at same
      obtain ⟨before, rfl⟩ := List.getLast?_eq_some_iff.mp same
      have named : GoesDown last := down last List.mem_concat_self
      rw [follow?_append] at led
      obtain ⟨middle, early, late⟩ := Option.bind_eq_some_iff.mp led
      rw [follow?_down middle fun _ member => List.mem_singleton.mp member ▸ named] at late
      obtain ⟨rfl, _⟩ := List.append_inj' (Option.some.inj late) rfl
      have kept := take_prefix_of_follow? early
      rwa [ups, List.count_append, List.count_eq_zero.mpr fun member =>
        named.2 (List.mem_singleton.mp member).symm]
    · rcases List.prefix_concat_iff.mp (take_prefix_of_follow? led) with all | proper
      · exact absurd (all ▸ List.take_prefix _ _) apart
      · exact proper
  have common := (prefix_take_commonLength (List.take_prefix _ _) shared).length_le
  rw [List.length_take, List.length_take] at common
  have total := ups_way source down
  omega

theorem way_ne_nil (source : List (List Char)) (present : target ≠ []) :
    way source target ≠ [] := by
  have within := (commonLength_le source.dropLast target.dropLast).2
  have nonempty := List.length_pos_iff.mpr present
  intro nothing
  have done := List.drop_eq_nil_iff.mp (List.append_eq_nil_iff.mp nothing).2
  rw [List.length_dropLast] at within
  omega

theorem slash_not_mem_way {segment : List Char} (apart : ∀ segment ∈ target, '/' ∉ segment)
    (member : segment ∈ way source target) : '/' ∉ segment := by
  rcases List.mem_append.mp member with back | forth
  · rw [List.eq_of_mem_replicate back]
    decide
  · exact apart segment (List.mem_of_mem_drop forth)

end Way

/-- A specifier is the way between the two modules, with a dot in front unless its text begins with
two of them. -/
theorem segments_between (source target : String) :
    segments (between source target) =
      if ['.', '.'].isPrefixOf (['/'].intercalate (way (segments source) (segments (stem target))))
      then way (segments source) (segments (stem target))
      else ['.'] :: way (segments source) (segments (stem target)) := by
  have parts : (['/'].intercalate (way (segments source) (segments (stem target)))).splitOn '/' =
      way (segments source) (segments (stem target)) :=
    List.splitOn_intercalate '/'
      (fun _ => slash_not_mem_way fun _ => Path.not_mem_of_mem_splitOn)
      (way_ne_nil _ (List.splitOn_ne_nil '/' _))
  rw [between, segments, String.toList_ofList]
  split
  · exact parts
  · have dot : ('.' :: '/' :: ['/'].intercalate (way (segments source) (segments (stem target)))) =
        ['.'] ++ '/' :: ['/'].intercalate (way (segments source) (segments (stem target))) := rfl
    rw [dot, List.splitOn_append_cons_self, parts]
    rfl

theorem follow?_between (directory : List (List Char)) (source target : String) :
    follow? directory (segments (between source target)) =
      follow? directory (way (segments source) (segments (stem target))) := by
  rw [segments_between]
  split <;> rfl

theorem ups_between (source target : String) :
    ups (segments (between source target)) =
      ups (way (segments source) (segments (stem target))) := by
  rw [segments_between]
  split
  · rfl
  · exact List.count_cons_of_ne (by decide)

/-- Two dots alone lead to a directory around the source, which may share its path with a target. -/
example : follow? (segments "shop/orders/service.js").dropLast [['.', '.']] =
    some (segments (stem "shop.js")) := by decide

end FlowClients.Specifier
