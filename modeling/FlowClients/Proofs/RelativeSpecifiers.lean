import FlowClients.Proofs.Exports
import FlowClients.Proofs.Specifiers

/-!
Which specifiers are relative. One that is not begins with the name of a package, for whoever reads
the module. A specifier goes without the dot in front if its text begins with two dots, though they
may be the beginning of a longer name.
-/

namespace FlowClients

namespace Specifier

/-- The first segment stays or goes up. -/
def IsRelative (specifier : String) : Prop :=
  (segments specifier).head? = some ['.'] ∨ (segments specifier).head? = some ['.', '.']

instance (specifier : String) : Decidable (IsRelative specifier) :=
  inferInstanceAs (Decidable (_ ∨ _))

/-- A name that begins like a segment that goes up, but is longer. -/
def LooksUp (name : List Char) : Prop := ['.', '.'] <+: name ∧ name ≠ ['.', '.']

instance (name : List Char) : Decidable (LooksUp name) := inferInstanceAs (Decidable (_ ∧ _))

/-- A path of names alone, and so is what is left of it without the extension of modules. -/
def OfNames (path : String) : Prop :=
  ∀ segment ∈ segments path ++ segments (stem path), segment ≠ [] ∧ GoesDown segment

instance (path : String) : Decidable (OfNames path) := inferInstanceAs (Decidable (∀ _ ∈ _, _))

/-! ### The first segment of a way -/

section Way

variable {source target : List (List Char)} {first : List Char} {rest : List (List Char)}

theorem prefix_intercalate_iff {part : List Char} (slashless : '/' ∉ part) :
    part <+: ['/'].intercalate (first :: rest) ↔ part <+: first := by
  cases rest with
  | nil => rw [List.intercalate_singleton]
  | cons next rest =>
    rw [List.intercalate_cons_cons, List.append_assoc]
    refine ⟨fun begins => ?_, fun begins => begins.trans (List.prefix_append _ _)⟩
    rcases List.prefix_or_prefix_of_prefix begins (List.prefix_append first _) with
      within | ⟨more, rfl⟩
    · exact within
    · cases more with
      | nil => rw [List.append_nil]
      | cons c more =>
        obtain ⟨rfl, _⟩ := List.cons_prefix_cons.mp ((List.prefix_append_right_inj first).mp begins)
        exact absurd (List.mem_append_right first List.mem_cons_self) slashless

/-- The way to what lies below the directory of the source goes straight down. -/
theorem way_of_below (below : target = source.dropLast ++ first :: rest) :
    way source target = first :: rest := by
  have inside : source.dropLast <+: target.dropLast := by
    rw [below, List.dropLast_append_of_ne_nil (List.cons_ne_nil first rest)]
    exact List.prefix_append _ _
  rw [way, commonLength_eq_length_iff.mpr inside, Nat.sub_self, List.replicate_zero,
    List.nil_append, below, List.drop_left]

/-- A way goes straight down or begins with a turn up. -/
theorem way_down_or_up (source : List (List Char)) (present : target ≠ []) :
    (∃ first rest, target = source.dropLast ++ first :: rest) ∨
      ∃ rest, way source target = ['.', '.'] :: rest := by
  have room := (commonLength_le source.dropLast target.dropLast).1
  cases turns : source.dropLast.length - commonLength source.dropLast target.dropLast with
  | succ count =>
    refine Or.inr ⟨List.replicate count ['.', '.'] ++
      target.drop (commonLength source.dropLast target.dropLast), ?_⟩
    rw [way, turns, List.replicate_succ, List.cons_append]
  | zero =>
    have whole : commonLength source.dropLast target.dropLast = source.dropLast.length := by omega
    obtain ⟨later, split⟩ := commonLength_eq_length_iff.mp whole
    obtain ⟨first, rest, more⟩ :=
      List.exists_cons_of_ne_nil (List.concat_ne_nil (target.getLast present) later)
    refine Or.inl ⟨first, rest, ?_⟩
    rw [← more, ← List.append_assoc, split, List.dropLast_append_getLast]

end Way

/-- Where the way begins with a segment, so does the specifier, but for the dot in front. -/
theorem isRelative_between_of_way {source target : String} {first : List Char}
    {rest : List (List Char)}
    (begins : way (segments source) (segments (stem target)) = first :: rest) :
    IsRelative (between source target) ↔ ¬ LooksUp first := by
  have test : ['.', '.'].isPrefixOf (['/'].intercalate (first :: rest)) = true ↔
      ['.', '.'] <+: first := by
    rw [List.isPrefixOf_iff_prefix, prefix_intercalate_iff (by decide)]
  rw [IsRelative, segments_between, begins]
  by_cases looks : ['.', '.'] <+: first
  · have longer : first ≠ ['.'] := by
      rintro rfl
      revert looks
      decide
    rw [if_pos (test.mpr looks), List.head?_cons]
    simp only [Option.some.injEq, longer, false_or, LooksUp, looks, true_and, not_not]
  · rw [if_neg (mt test.mp looks)]
    exact iff_of_true (Or.inl rfl) fun both => looks both.1

/-- A specifier is relative unless the target lies below the directory of the source, at a name that
begins with two dots and goes on. -/
theorem isRelative_between_iff (source target : String) :
    IsRelative (between source target) ↔
      ∀ name rest, segments (stem target) = (segments source).dropLast ++ name :: rest →
        ¬ LooksUp name := by
  refine ⟨fun relative name rest below =>
    (isRelative_between_of_way (way_of_below below)).mp relative, fun plain => ?_⟩
  rcases way_down_or_up (segments source) (List.splitOn_ne_nil '/' (stem target).toList) with
    ⟨name, rest, below⟩ | ⟨rest, up⟩
  · exact (isRelative_between_of_way (way_of_below below)).mpr (plain name rest below)
  · exact (isRelative_between_of_way up).mpr (by decide)

theorem isRelative_transport (source : String) : IsRelative (between source transportFile) := by
  refine (isRelative_between_iff source transportFile).mpr fun name rest below => ?_
  have plain : ∀ segment ∈ segments (stem transportFile), ¬ LooksUp segment := by decide
  exact plain name (below ▸ List.mem_append_right _ List.mem_cons_self)

end Specifier

open Specifier

/-- In every module that is generated from accepted files, the transport is imported by a relative
specifier. So is a model, unless its module lies below the directory of the importing one and the
first name on the way there begins with two dots and goes on. -/
theorem import_specifiers_relative_iff {files : List FileDescriptor} {schema : Schema}
    (accepted : Schema.ofFiles files = .ok schema) (version : Version) :
    ∃ catalog, Catalog.ofFiles files = .ok catalog ∧ ∀ outline ∈ catalog.outlines,
      IsRelative (outline.clientModule version catalog).transport ∧
      ∀ entry ∈ (outline.clientModule version catalog).imports,
        ∃ target ∈ catalog.outlines, entry.specifier = between outline.file target.file ∧
          (IsRelative entry.specifier ↔
            ∀ name rest,
              segments (stem target.file) = (segments outline.file).dropLast ++ name :: rest →
                ¬ LooksUp name) := by
  refine ⟨schema.extracted, Catalog.ofFiles_eq_ok accepted, ?_⟩
  intro outline _
  refine ⟨isRelative_transport outline.file, fun entry member => ?_⟩
  obtain ⟨file, fileMember, _, _, _, _, way⟩ := Schema.import_origin member
  refine ⟨file.outline, List.mem_map_of_mem fileMember, way, ?_⟩
  rw [way]
  exact isRelative_between_iff outline.file (moduleFile file.name)

/-- A file imports another one next to it, whose name begins with two dots. -/
def twoDotsFiles : List FileDescriptor :=
  [.plain "shop.proto" "shop" ["..hat.proto"]
      [.plain "Order" [.referring "hat" 1 ".hats.Hat"] []] [],
    .plain "..hat.proto" "hats" [] [.plain "Hat" [] []] []]

def orderFile : Schema.File :=
  ⟨"shop.proto", "shop", [⟨"Order", [⟨"hat", 1, false, .message "hats.Hat"⟩]⟩], []⟩

theorem twoDotsFiles_accepted : Schema.ofFiles twoDotsFiles =
    .ok ⟨[orderFile, ⟨"..hat.proto", "hats", [⟨"Hat", []⟩], []⟩]⟩ := rfl

/-- The specifier of the model is not relative, and the path of its target tells why. -/
theorem import_specifiers_relative_iff_shop :
    ∃ catalog, Catalog.ofFiles twoDotsFiles = .ok catalog ∧
      IsRelative (orderFile.outline.clientModule .v5 catalog).transport ∧
      ∃ target ∈ catalog.outlines, "..hat" = between "shop.js" target.file ∧
        ∃ name rest, segments (stem target.file) = name :: rest ∧ LooksUp name := by
  obtain ⟨catalog, run, relative⟩ := import_specifiers_relative_iff twoDotsFiles_accepted .v5
  cases run.symm.trans (Catalog.ofFiles_eq_ok twoDotsFiles_accepted)
  obtain ⟨transport, entries⟩ := relative orderFile.outline (by decide)
  obtain ⟨target, member, way, plain⟩ := entries ⟨"..hat", "Hat"⟩ (by decide)
  have foreign : ¬ IsRelative "..hat" := by decide
  have dotted := mt plain.mpr foreign
  push Not at dotted
  exact ⟨_, run, transport, target, member, way, dotted⟩

/-- Both modules have paths of names alone, and still one imports the other by a specifier that is
not relative. -/
theorem dotted_sibling_not_relative :
    (∀ path ∈ moduleFiles twoDotsFiles, OfNames path) ∧
      ∃ catalog, Catalog.ofFiles twoDotsFiles = .ok catalog ∧ ∃ outline ∈ catalog.outlines,
        ∃ entry ∈ (outline.clientModule .v5 catalog).imports, ¬ IsRelative entry.specifier := by
  have built := Catalog.ofFiles_eq_ok twoDotsFiles_accepted
  exact ⟨by decide, _, built, orderFile.outline, by decide, ⟨"..hat", "Hat"⟩, by decide, by decide⟩

end FlowClients
