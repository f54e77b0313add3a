import FlowClients.FileTree
import Mathlib.Data.Fintype.EquivFin
import Mathlib.Data.List.Infix

/-!
Where path texts lead. A path is followed segment by segment from where it begins, so what it
passes on its way is told by the fronts of its segments: those of the path of the directory around it
are among them, and those of a path joined to another are the segments of both.
-/

namespace FlowClients.Path

/-- Where a segment leads from a location. -/
def step (location : Location) (segment : String) : Location :=
  if isIdle segment then location
  else if segment = ".." then location.dropLast
  else location ++ [segment]

/-- Where segments lead from a location. -/
def lead (location : Location) (segments : List String) : Location := segments.foldl step location

/-- Where a path begins. -/
def origin (start : Location) (path : String) : Location := if isAbsolute path then [] else start

/-- The location that a path leads to, seen from a start. -/
def resolve (start : Location) (path : String) : Location :=
  lead (origin start path) (segments path)

/-- The locations that a path passes, the last of them included. -/
def Passes (start : Location) (path : String) (location : Location) : Prop :=
  ∃ front, front <+: segments path ∧ location = lead (origin start path) front

/-- A relative path of names alone. -/
structure Proper (path : String) : Prop where
  relative : isAbsolute path = false
  named : ∀ segment ∈ segments path, isIdle segment = false ∧ segment ≠ ".."

instance (path : String) : Decidable (Proper path) :=
  decidable_of_iff (isAbsolute path = false ∧
      ∀ segment ∈ segments path, isIdle segment = false ∧ segment ≠ "..")
    ⟨fun ⟨relative, named⟩ => ⟨relative, named⟩, fun proper => ⟨proper.relative, proper.named⟩⟩

/-! ### Segments -/

theorem lead_append (location : Location) (front rest : List String) :
    lead location (front ++ rest) = lead (lead location front) rest := List.foldl_append

theorem lead_empty (location : Location) (count : Nat) :
    lead location (List.replicate count "") = location := by
  induction count with
  | zero => rfl
  | succ count ih => exact ih

/-- A single empty segment leads nowhere. -/
theorem lead_of_nowhere {location : Location} {front : List String} (nowhere : front <+: [""]) :
    lead location front = location := by
  rcases List.prefix_cons_iff.mp nowhere with rfl | ⟨rest, rfl, nothing⟩
  · rfl
  · rw [List.prefix_nil.mp nothing]
    rfl

theorem lead_of_named {location : Location} {segments : List String}
    (named : ∀ segment ∈ segments, isIdle segment = false ∧ segment ≠ "..") :
    lead location segments = location ++ segments := by
  induction segments generalizing location with
  | nil => exact (List.append_nil _).symm
  | cons segment rest ih =>
    obtain ⟨busy, forward⟩ := named segment List.mem_cons_self
    have first : step location segment = location ++ [segment] := by
      simp only [step, busy, Bool.false_eq_true, if_false, if_neg forward]
    change lead (step location segment) rest = _
    rw [first, ih fun later member => named later (List.mem_cons_of_mem _ member),
      List.append_assoc]
    rfl

theorem not_mem_of_mem_splitOn {separator : Char} {text part : List Char}
    (member : part ∈ text.splitOn separator) : separator ∉ part := by
  induction text generalizing part with
  | nil =>
    rw [List.splitOn_nil, List.mem_singleton] at member
    rw [member]
    exact List.not_mem_nil
  | cons c rest ih =>
    obtain ⟨word, words, split⟩ := List.exists_cons_of_ne_nil (List.splitOn_ne_nil separator rest)
    rw [List.splitOn_cons_eq_if_modifyHead] at member
    rw [split] at member ih
    split at member
    · rcases List.mem_cons.mp member with rfl | later
      · exact List.not_mem_nil
      · exact ih later
    · rename_i other
      rcases List.mem_cons.mp member with rfl | later
      · intro inside
        rcases List.mem_cons.mp inside with same | within
        · exact other (beq_iff_eq.mpr same.symm)
        · exact ih List.mem_cons_self within
      · exact ih (List.mem_cons_of_mem _ later)

theorem slash_not_mem_segments {path segment : String} (member : segment ∈ segments path) :
    '/' ∉ segment.toList := by
  obtain ⟨part, split, rfl⟩ := List.mem_map.mp member
  rw [String.toList_ofList]
  exact not_mem_of_mem_splitOn split

theorem segments_ne_nil (path : String) : segments path ≠ [] :=
  fun nothing => List.splitOn_ne_nil '/' _ (List.map_eq_nil_iff.mp nothing)

theorem segments_of_relative {path : String} (relative : isAbsolute path = false) :
    segments path = (path.toList.splitOn '/').map String.ofList := by
  simp only [segments, relative, Bool.false_eq_true, if_false]

theorem segments_inj {path other : String} (relative : isAbsolute path = false)
    (also : isAbsolute other = false) : segments path = segments other ↔ path = other := by
  refine ⟨fun same => ?_, fun same => same ▸ rfl⟩
  rw [segments_of_relative relative, segments_of_relative also] at same
  have parts := List.map_injective_iff.mpr (fun _ _ => String.ofList_injective) same
  have joined := congrArg (['/'].intercalate ·) parts
  simp only [List.intercalate_splitOn] at joined
  exact String.toList_inj.mp joined

theorem segments_intercalate {parts : List String} (nonempty : parts ≠ [])
    (apart : ∀ part ∈ parts, '/' ∉ part.toList) :
    (("/".intercalate parts).toList.splitOn '/').map String.ofList = parts := by
  have slash : "/".toList = ['/'] := rfl
  rw [String.toList_intercalate, slash, List.splitOn_intercalate, List.map_map]
  · exact List.map_id'' (fun part => String.ofList_toList) parts
  · intro text member
    obtain ⟨part, present, rfl⟩ := List.mem_map.mp member
    exact apart part present
  · exact fun nothing => nonempty (List.map_eq_nil_iff.mp nothing)

/-! ### Joined paths -/

/-- A path without the slash that makes it absolute. -/
def body (path : String) : List Char :=
  if isAbsolute path then path.toList.drop 1 else path.toList

theorem segments_eq (path : String) :
    segments path = ((body path).splitOn '/').map String.ofList := rfl

theorem body_suffix (path : String) : body path <:+ path.toList := by
  unfold body
  split
  · exact List.drop_suffix 1 _
  · exact List.suffix_refl _

theorem isAbsolute_append {base : String} (nonempty : base ≠ "") (rest : String) :
    isAbsolute (base ++ rest) = isAbsolute base := by
  obtain ⟨c, cs, text⟩ := List.exists_cons_of_ne_nil (mt String.toList_eq_nil_iff.mp nonempty)
  simp only [isAbsolute, String.toList_append, text, List.cons_append, List.head?_cons]

theorem body_append {base : String} (nonempty : base ≠ "") (rest : String) :
    body (base ++ rest) = body base ++ rest.toList := by
  obtain ⟨c, cs, text⟩ := List.exists_cons_of_ne_nil (mt String.toList_eq_nil_iff.mp nonempty)
  simp only [body, isAbsolute_append nonempty, String.toList_append, text]
  split <;> rfl

/-- The segments of a path joined to another are those of both, but for an empty one between them. -/
theorem exists_segments_join (base : String) {path : String} (relative : isAbsolute path = false) :
    ∃ front, segments (join base path) = front ++ segments path ∧
      (segments base = front ∨ segments base = front ++ [""]) ∧
      isAbsolute (join base path) = isAbsolute base := by
  have plain : (path.toList.splitOn '/').map String.ofList = segments path :=
    (segments_of_relative relative).symm
  by_cases empty : base = ""
  · subst empty
    have joined : join "" path = path := by simp [join, relative]
    exact ⟨[], by rw [joined]; rfl, Or.inr rfl, by rw [joined, relative]; rfl⟩
  by_cases closed : base.toList.getLast? = some '/'
  · have joined : join base path = base ++ path := by simp [join, relative, closed]
    rw [joined, segments_eq, body_append empty, isAbsolute_append empty, segments_eq base]
    rcases List.eq_nil_or_concat' (body base) with root | ⟨text, last, split⟩
    · exact ⟨[], by rw [root]; exact plain, Or.inr (by rw [root]; rfl), rfl⟩
    · have slash : last = '/' := by
        obtain ⟨front, whole⟩ := body_suffix base
        rw [← whole, split] at closed
        simpa using closed
      refine ⟨(text.splitOn '/').map String.ofList, ?_, Or.inr ?_, rfl⟩
      · rw [split, slash, List.append_assoc, List.singleton_append, List.splitOn_append_cons_self,
          List.map_append, plain]
      · rw [split, slash, List.splitOn_append_cons_self, List.map_append]
        rfl
  · have joined : join base path = base ++ ("/" ++ path) := by
      simp [join, relative, closed, empty, String.append_assoc]
    rw [joined, segments_eq, body_append empty, isAbsolute_append empty]
    refine ⟨segments base, ?_, Or.inl rfl, rfl⟩
    have slash : ("/" ++ path).toList = '/' :: path.toList := by
      rw [String.toList_append]
      rfl
    rw [slash, List.splitOn_append_cons_self, List.map_append, plain]
    rfl

theorem origin_join (start : Location) (base : String) {path : String}
    (relative : isAbsolute path = false) : origin start (join base path) = origin start base := by
  obtain ⟨_, _, _, same⟩ := exists_segments_join base relative
  simp only [origin, same]

theorem resolve_eq_lead (start : Location) {base : String} {front : List String}
    (own : segments base = front ∨ segments base = front ++ [""]) :
    resolve start base = lead (origin start base) front := by
  rcases own with own | own
  · rw [resolve, own]
  · rw [resolve, own, lead_append]
    rfl

/-- A path joined to another is followed from where that one leads. -/
theorem resolve_join (start : Location) (base : String) {path : String}
    (relative : isAbsolute path = false) :
    resolve start (join base path) = lead (resolve start base) (segments path) := by
  obtain ⟨front, joined, own, _⟩ := exists_segments_join base relative
  rw [resolve, origin_join start base relative, joined, lead_append, resolve_eq_lead start own]

theorem Proper.resolve_join {path : String} (proper : Proper path) (start : Location)
    (base : String) : resolve start (join base path) = resolve start base ++ segments path := by
  rw [Path.resolve_join start base proper.relative, lead_of_named proper.named]

/-- What a joined path passes is passed on the way to the base, or from there on. -/
theorem Passes.of_join {start location : Location} {base path : String}
    (relative : isAbsolute path = false) (passed : Passes start (join base path) location) :
    Passes start base location ∨
      ∃ front, front <+: segments path ∧ location = lead (resolve start base) front := by
  obtain ⟨front, joined, own, _⟩ := exists_segments_join base relative
  obtain ⟨taken, within, rfl⟩ := passed
  rw [origin_join start base relative, resolve_eq_lead start own]
  rw [joined] at within
  rcases List.prefix_or_prefix_of_prefix within (List.prefix_append front _) with early | late
  · have whole : front <+: segments base := by
      rcases own with own | own
      · exact own ▸ List.prefix_refl _
      · exact own ▸ List.prefix_append _ _
    exact Or.inl ⟨taken, early.trans whole, rfl⟩
  · obtain ⟨rest, rfl⟩ := late
    exact Or.inr ⟨rest, (List.prefix_append_right_inj front).mp within, lead_append ..⟩

/-! ### The path around a path -/

theorem dropIdle_suffix (absolute : Bool) (reversed : List String) :
    dropIdle absolute reversed <:+ reversed := by
  fun_induction dropIdle absolute reversed with
  | case1 => exact List.suffix_refl _
  | case2 => exact List.nil_suffix
  | case3 => exact List.suffix_refl _
  | case4 segment rest _ _ ih => exact ih.trans (List.suffix_cons _ _)
  | case5 => exact List.suffix_refl _

theorem isAbsolute_intercalate {path : String} {front : List String} (nonempty : path ≠ "")
    (relative : isAbsolute path = false) (within : front <+: segments path) :
    isAbsolute ("/".intercalate front) = false := by
  obtain ⟨c, cs, text⟩ := List.exists_cons_of_ne_nil (mt String.toList_eq_nil_iff.mp nonempty)
  obtain ⟨word, words, split⟩ := List.exists_cons_of_ne_nil (List.splitOn_ne_nil '/' cs)
  have other : (c == '/') = false := by
    simpa only [isAbsolute, text, List.head?_cons, Option.some_beq_some] using relative
  have own : segments path = String.ofList (c :: word) :: words.map String.ofList := by
    rw [segments_of_relative relative, text, List.splitOn_cons_eq_if_modifyHead, split, other]
    rfl
  rw [own] at within
  rcases List.prefix_cons_iff.mp within with rfl | ⟨rest, rfl, _⟩
  · rfl
  · have begins : ("/".intercalate (String.ofList (c :: word) :: rest)).toList.head? = some c := by
      rw [String.toList_intercalate, List.map_cons, String.toList_ofList (l := c :: word),
        List.intercalate_cons_cons_left, List.head?_cons]
    rw [isAbsolute, begins, Option.some_beq_some, other]

/-- The path around a path is made of a front of its segments. -/
theorem parent?_eq_some {path parent : String} (around : parent? path = some parent) :
    path ≠ "" ∧ ∃ front, front <+: segments path ∧
      parent = if isAbsolute path then "/" ++ "/".intercalate front else "/".intercalate front := by
  unfold parent? at around
  split at around
  · cases around
  · rename_i last rest dropped
    cases around
    refine ⟨?_, _, ?_, rfl⟩
    · rintro rfl
      cases dropped
    · have first := dropIdle_suffix (isAbsolute path) (segments path).reverse
      rw [dropped] at first
      have second := (dropIdle_suffix (isAbsolute path) rest).trans (List.suffix_cons last rest)
      exact List.reverse_suffix.mp (by rw [List.reverse_reverse]; exact second.trans first)

/-- The path around a path begins where that does, and has a front of its segments or one empty
segment. -/
theorem segments_parent {path parent : String} (around : parent? path = some parent) :
    isAbsolute parent = isAbsolute path ∧
      (segments parent = [""] ∨ segments parent <+: segments path) := by
  obtain ⟨nonempty, front, within, rfl⟩ := parent?_eq_some around
  by_cases nothing : front = []
  · subst nothing
    cases isAbsolute path <;> exact ⟨rfl, Or.inl rfl⟩
  have own : (("/".intercalate front).toList.splitOn '/').map String.ofList = front :=
    segments_intercalate nothing fun part member => slash_not_mem_segments (within.subset member)
  cases absolute : isAbsolute path with
  | true =>
    have slash : "/" ≠ "" := by decide
    have same : segments ("/" ++ "/".intercalate front) = front := by
      rw [segments_eq, body_append slash]
      exact own
    exact ⟨isAbsolute_append slash _, Or.inr (by rw [if_pos rfl, same]; exact within)⟩
  | false =>
    have relative := isAbsolute_intercalate nonempty absolute within
    have same : segments ("/".intercalate front) = front := by
      rw [segments_of_relative relative, own]
    exact ⟨relative, Or.inr (by rw [if_neg Bool.false_ne_true, same]; exact within)⟩

theorem Passes.of_parent {start location : Location} {path parent : String}
    (around : parent? path = some parent) (passed : Passes start parent location) :
    Passes start path location := by
  obtain ⟨same, own⟩ := segments_parent around
  obtain ⟨taken, inner, rfl⟩ := passed
  have begins : origin start parent = origin start path := by simp only [origin, same]
  rw [begins]
  rcases own with nothing | front
  · exact ⟨[], List.nil_prefix, lead_of_nowhere (nothing ▸ inner)⟩
  · exact ⟨taken, inner.trans front, rfl⟩

/-! ### Paths that stay below where they begin -/

/-- Whether segments never lead out of a directory, from so many directories below it. -/
def stays : Nat → List String → Bool
  | _, [] => true
  | depth, segment :: rest =>
    if isIdle segment then stays depth rest
    else if segment = ".." then depth != 0 && stays (depth - 1) rest
    else stays (depth + 1) rest

/-- A relative path that never leads out of where it begins. -/
structure StaysBelow (path : String) : Prop where
  relative : isAbsolute path = false
  below : stays 0 (segments path) = true

instance (path : String) : Decidable (StaysBelow path) :=
  decidable_of_iff (isAbsolute path = false ∧ stays 0 (segments path) = true)
    ⟨fun ⟨relative, below⟩ => ⟨relative, below⟩, fun known => ⟨known.relative, known.below⟩⟩

theorem exists_lead (top inner : Location) {segments : List String}
    (below : stays inner.length segments = true) :
    ∃ deeper, lead (top ++ inner) segments = top ++ deeper := by
  induction segments generalizing inner with
  | nil => exact ⟨inner, rfl⟩
  | cons segment rest ih =>
    change ∃ deeper, lead (step (top ++ inner) segment) rest = _
    unfold stays at below
    unfold step
    split
    · rw [if_pos ‹_›] at below
      exact ih inner below
    rw [if_neg ‹_›] at below
    split
    · rw [if_pos ‹_›, Bool.and_eq_true, bne_iff_ne] at below
      have some : inner ≠ [] := mt List.length_eq_zero_iff.mpr below.1
      rw [List.dropLast_append_of_ne_nil some]
      exact ih inner.dropLast (by rw [List.length_dropLast]; exact below.2)
    · rw [if_neg ‹_›] at below
      rw [List.append_assoc]
      exact ih (inner ++ [segment]) (by rw [List.length_append]; exact below)

theorem stays_of_prefix {depth : Nat} {front segments : List String}
    (below : stays depth segments = true) (within : front <+: segments) :
    stays depth front = true := by
  induction front generalizing depth segments with
  | nil => rfl
  | cons segment front ih =>
    obtain ⟨rest, rfl⟩ := within
    rw [List.cons_append, stays] at below
    rw [stays]
    have more : ∀ {depth}, stays depth (front ++ rest) = true → stays depth front = true :=
      fun below => ih below (List.prefix_append front rest)
    split
    · exact more (by rwa [if_pos ‹_›] at below)
    rw [if_neg ‹_›] at below
    split
    · rw [if_pos ‹_›, Bool.and_eq_true] at below
      exact Bool.and_eq_true_iff.mpr ⟨below.1, more below.2⟩
    · exact more (by rwa [if_neg ‹_›] at below)

theorem not_mem_step {fresh segment : String} {location : Location} (absent : fresh ∉ location)
    (other : fresh ≠ segment) : fresh ∉ step location segment := by
  unfold step
  split
  · exact absent
  split
  · exact fun member => absent (List.dropLast_subset _ member)
  · simp [absent, other]

theorem not_mem_lead {fresh : String} {location : Location} {segments : List String}
    (absent : fresh ∉ location) (apart : fresh ∉ segments) : fresh ∉ lead location segments := by
  induction segments generalizing location with
  | nil => exact absent
  | cons segment rest ih =>
    rw [List.mem_cons, not_or] at apart
    exact ih (not_mem_step absent apart.1) apart.2

/-- A name that segments lead out of and do not lead into is gone. -/
theorem not_mem_lead_of_leaving {fresh : String} (inner : Location) {segments : List String}
    (leaves : stays inner.length segments = false) (absent : fresh ∉ inner)
    (apart : fresh ∉ segments) : fresh ∉ lead (fresh :: inner) segments := by
  induction segments generalizing inner with
  | nil => cases leaves
  | cons segment rest ih =>
    rw [List.mem_cons, not_or] at apart
    change fresh ∉ lead (step (fresh :: inner) segment) rest
    unfold stays at leaves
    unfold step
    split
    · rw [if_pos ‹_›] at leaves
      exact ih inner leaves absent apart.2
    rw [if_neg ‹_›] at leaves
    split
    · rw [if_pos ‹_›] at leaves
      cases inner with
      | nil => exact not_mem_lead List.not_mem_nil apart.2
      | cons name deeper =>
        refine ih _ ?_ (fun member => absent (List.dropLast_subset _ member)) apart.2
        rw [List.length_dropLast]
        exact leaves
    · rw [if_neg ‹_›] at leaves
      rw [List.cons_append]
      refine ih _ ?_ ?_ apart.2
      · rw [List.length_append]
        exact leaves
      · simp [absent, apart.1]

/-- A path joined to a directory stays below it, whatever directory that is, exactly if it never
leads out of where it begins. -/
theorem staysBelow_iff {path : String} : StaysBelow path ↔
    ∀ start directory, resolve start directory <+: resolve start (join directory path) := by
  constructor
  · intro ⟨relative, below⟩ start directory
    obtain ⟨deeper, led⟩ := exists_lead (resolve start directory) [] below
    rw [List.append_nil] at led
    rw [resolve_join start directory relative, led]
    exact List.prefix_append ..
  · intro within
    obtain ⟨fresh, apart⟩ := Infinite.exists_notMem_finset (segments path).toFinset
    rw [List.mem_toFinset] at apart
    -- A directory of a name that the path does not have is never entered again.
    have entered : fresh ∈ resolve [fresh] (join "." path) := by
      have home : resolve [fresh] "." = [fresh] := rfl
      have member := within [fresh] "."
      rw [home] at member
      exact member.subset List.mem_cons_self
    have relative : isAbsolute path = false := by
      by_contra absolute
      rw [Bool.not_eq_false] at absolute
      have replaced : resolve [fresh] (join "." path) = lead [] (segments path) := by
        simp [resolve, origin, join, absolute]
      rw [replaced] at entered
      exact not_mem_lead List.not_mem_nil apart entered
    refine ⟨relative, ?_⟩
    by_contra leaves
    rw [Bool.not_eq_true] at leaves
    rw [resolve_join [fresh] "." relative] at entered
    exact not_mem_lead_of_leaving [] leaves List.not_mem_nil apart entered

end FlowClients.Path
