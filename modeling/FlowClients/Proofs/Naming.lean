import FlowClients.FieldTypes
import FlowClients.Pool.Element
import Mathlib.Data.List.Nodup

/-!
Full names and simple names, what a unique name finds, list types and item types.
-/

namespace FlowClients

theorem simpleName_of_dotless {name : String} (dotless : '.' ∉ name.toList) :
    simpleName name = name := by
  rw [simpleName, List.splitOn_eq_singleton dotless, List.getLastD_cons, List.getLastD_nil,
    String.ofList_toList]

/-- The simple name of a qualified name is the name itself, whatever the scope looks like. -/
theorem simpleName_qualify {name : String} (scope : String) (dotless : '.' ∉ name.toList) :
    simpleName (qualify scope name) = name := by
  unfold qualify
  split
  · exact simpleName_of_dotless dotless
  · have text : (scope ++ "." ++ name).toList = scope.toList ++ '.' :: name.toList := by simp
    rw [simpleName, text, List.splitOn_append_cons_self, List.splitOn_eq_singleton dotless,
      List.getLastD_concat, String.ofList_toList]

/-- What has a name that nothing else in a list has is found under that name. -/
theorem find?_eq_some_of_nodup {α : Type} {name : α → String} {items : List α} {item : α}
    (distinct : (items.map name).Nodup) (member : item ∈ items) :
    items.find? (name · == name item) = some item := by
  cases found : items.find? (name · == name item) with
  | none => exact absurd (List.find?_eq_none.mp found item member) (by simp)
  | some first =>
    have same : name first = name item := by simpa using List.find?_some found
    rw [List.inj_on_of_nodup_map distinct (List.mem_of_find?_eq_some found) member same]

/-- Under a unique name the same is found in whatever order. -/
theorem find?_of_perm {α : Type} {name : α → String} {items others : List α}
    (perm : items.Perm others) (distinct : (items.map name).Nodup) (wanted : String) :
    items.find? (name · == wanted) = others.find? (name · == wanted) := by
  cases found : items.find? (name · == wanted) with
  | none =>
    refine (List.find?_eq_none.mpr fun item member => ?_).symm
    exact List.find?_eq_none.mp found item (perm.symm.subset member)
  | some item =>
    have same : name item = wanted := by simpa using List.find?_some found
    have member := perm.subset (List.mem_of_find?_eq_some found)
    have otherDistinct := (perm.map name).nodup_iff.mp distinct
    rw [← same, find?_eq_some_of_nodup otherDistinct member]

theorem beforeEnding?_eq_some {ending text stem : String} :
    beforeEnding? ending text = some stem ↔ text = stem ++ ending := by
  simp only [beforeEnding?, Option.map_eq_some_iff, List.isSuffixOf?_eq_some_iff_append_eq]
  constructor
  · rintro ⟨front, whole, rfl⟩
    rw [← String.toList_inj, ← whole, String.toList_append, String.toList_ofList]
  · rintro rfl
    exact ⟨stem.toList, String.toList_append.symm, String.ofList_toList⟩

theorem beforeEnding?_eq_none {ending text : String} :
    beforeEnding? ending text = none ↔ ¬ ending.toList <:+ text.toList := by
  cases found : beforeEnding? ending text with
  | none =>
    refine ⟨fun _ => ?_, fun _ => rfl⟩
    rintro ⟨front, whole⟩
    have stem : text = String.ofList front ++ ending := by
      rw [← String.toList_inj, ← whole, String.toList_append, String.toList_ofList]
    rw [beforeEnding?_eq_some.mpr stem] at found
    cases found
  | some stem =>
    refine ⟨nofun, fun absent => absurd ⟨stem.toList, ?_⟩ absent⟩
    rw [beforeEnding?_eq_some.mp found, String.toList_append]

@[simp] theorem itemType_listType (item : String) : itemType (listType item) = item := by
  have text : (listType item).toList = "Array<".toList ++ (item.toList ++ ['>']) := by
    simp [listType]
  have inner : "Array<".toList.isPrefixOf? (listType item).toList = some (item.toList ++ ['>']) :=
    List.isPrefixOf?_eq_some_iff_append_eq.mpr text.symm
  have stripped : ['>'].isSuffixOf? (item.toList ++ ['>']) = some item.toList :=
    List.isSuffixOf?_eq_some_iff_append_eq.mpr rfl
  simp only [itemType, inner, stripped, Option.map_some, Option.getD_some, String.ofList_toList]

end FlowClients
