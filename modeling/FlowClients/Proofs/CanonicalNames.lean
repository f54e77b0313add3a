import FlowClients.Proofs.MemberNames

/-!
Canonical wire names, which are words of small letters and digits joined by single underscores. The
member name of a canonical name has a capital where a word begins and nowhere else, so the wire name
can be read off it again.
-/

namespace FlowClients

namespace Text

def isSmall (c : Char) : Bool := c.isLower || c.isDigit

/-- A capital stands for an underscore and its small letter, anything else for itself. -/
def openCapital (c : Char) : List Char := if c.isUpper then ['_', c.toLower] else [c]

end Text

/-- The wire name that a member name is read as: an underscore is put before each capital, which
becomes small. -/
def wireNameOf (name : String) : String := String.ofList (name.toList.flatMap Text.openCapital)

/-- Small letters and digits, of which the first is a letter. -/
structure LetterWord (word : List Char) : Prop where
  letter : word.head?.any Char.isLower = true
  small : ∀ c ∈ word, Text.isSmall c = true

/-- Words of small letters and digits, none of them empty. All but the first begin with a letter, so
that a capital can take its place. -/
structure CanonicalWords (first : List Char) (later : List (List Char)) : Prop where
  nonempty : first ≠ []
  small : ∀ c ∈ first, Text.isSmall c = true
  letterWords : ∀ word ∈ later, LetterWord word

/-- The name consists of such words, joined by single underscores. -/
def IsCanonical (name : String) : Prop :=
  ∃ first later, CanonicalWords first later ∧ name.toList = ['_'].intercalate (first :: later)

namespace Text

variable {c : Char} {cs : List Char}

theorem isAlphanum_of_isSmall (small : isSmall c = true) : c.isAlphanum = true := by
  rcases Bool.or_eq_true_iff.mp small with lower | digit
  · simp [Char.isAlphanum, Char.isAlpha, lower]
  · simp [Char.isAlphanum, digit]

theorem isAscii_of_isSmall (small : isSmall c = true) : c.isAscii = true :=
  isAscii_of_isAlphanum (isAlphanum_of_isSmall small)

theorem not_isUpper_of_isSmall (small : isSmall c = true) : ¬ c.isUpper = true := by
  rcases Bool.or_eq_true_iff.mp small with lower | digit
  · exact Char.not_isUpper_of_isLower lower
  · simp only [Char.isUpper, Char.isDigit, Bool.and_eq_true, decide_eq_true_eq, ge_iff_le,
      UInt32.le_iff_toNat_le, Char.reduceVal, UInt32.reduceToNat, Char.toNat_val] at digit ⊢
    omega

theorem lowerWord_of_isSmall (small : ∀ c ∈ cs, isSmall c = true) : lowerWord cs = cs := by
  rw [lowerWord, lowerFrom_of_isAscii [] fun c member => isAscii_of_isSmall (small c member)]
  refine (List.map_congr_left fun c member => ?_).trans (List.map_id cs)
  exact Char.toLower_eq_of_not_isUpper (not_isUpper_of_isSmall (small c member))

theorem flatMap_openCapital (small : ∀ c ∈ cs, isSmall c = true) :
    cs.flatMap openCapital = cs := by
  induction cs with
  | nil => rfl
  | cons c rest ih =>
    have kept : openCapital c = [c] :=
      if_neg (not_isUpper_of_isSmall (small c List.mem_cons_self))
    rw [List.flatMap_cons, kept, ih fun d member => small d (List.mem_cons_of_mem c member)]
    rfl

theorem openCapital_toUpper (letter : c.isLower = true) : openCapital c.toUpper = ['_', c] := by
  have capital : c.toUpper.isUpper = true := by
    simp [Char.isAlpha, letter]
  rw [openCapital, if_pos capital, Char.toLower_toUpper_eq_toLower,
    Char.toLower_eq_of_not_isUpper (Char.not_isUpper_of_isLower letter)]

end Text

namespace LetterWord

variable {word : List Char}

/-- The shape in which the other laws take a word apart. -/
theorem capitalized (shape : LetterWord word) :
    ∃ c rest, word = c :: rest ∧ c.isLower = true ∧ (∀ d ∈ rest, Text.isSmall d = true) ∧
      Text.capitalize word = c.toUpper :: rest := by
  obtain ⟨letter, small⟩ := shape
  cases word with
  | nil => cases letter
  | cons c rest =>
    obtain ⟨first, later⟩ := List.forall_mem_cons.mp small
    refine ⟨c, rest, rfl, letter, later, ?_⟩
    rw [Text.capitalize, Text.upperChar_of_isAscii (Text.isAscii_of_isSmall first),
      Text.lowerWord_of_isSmall later]
    rfl

theorem cons {c : Char} {rest : List Char} (letter : c.isLower = true)
    (small : ∀ d ∈ rest, Text.isSmall d = true) : LetterWord (c :: rest) :=
  ⟨letter, List.forall_mem_cons.mpr ⟨Bool.or_eq_true_iff.mpr (Or.inl letter), small⟩⟩

/-- The capital shows where the word was joined to the one before it. -/
theorem flatMap_openCapital_capitalize (shape : LetterWord word) :
    (Text.capitalize word).flatMap Text.openCapital = '_' :: word := by
  obtain ⟨c, rest, rfl, letter, small, capital⟩ := shape.capitalized
  rw [capital, List.flatMap_cons, Text.openCapital_toUpper letter, Text.flatMap_openCapital small]
  rfl

end LetterWord

/-- The first word, then each later one behind a separator. -/
theorem intercalate_cons_eq_append (separator : Char) (first : List Char)
    (later : List (List Char)) :
    [separator].intercalate (first :: later) = first ++ later.flatMap (separator :: ·) := by
  induction later generalizing first with
  | nil => simp
  | cons next rest ih =>
    rw [List.intercalate_cons_cons, ih next, List.flatMap_cons]
    simp

namespace CanonicalWords

variable {first : List Char} {later : List (List Char)} {name : String}

theorem underscore_not_mem (words : CanonicalWords first later) :
    ∀ word ∈ first :: later, '_' ∉ word := by
  refine List.forall_mem_cons.mpr ⟨fun member => ?_, fun word within member => ?_⟩
  · exact absurd (words.small '_' member) (by decide)
  · exact absurd ((words.letterWords word within).small '_' member) (by decide)

theorem splitOn_eq (words : CanonicalWords first later)
    (joined : name.toList = ['_'].intercalate (first :: later)) :
    name.toList.splitOn '_' = first :: later := by
  rw [joined, List.splitOn_intercalate '_' words.underscore_not_mem (List.cons_ne_nil first later)]

theorem toList_memberName (words : CanonicalWords first later)
    (joined : name.toList = ['_'].intercalate (first :: later)) :
    (memberName name).toList = first ++ later.flatMap Text.capitalize := by
  have same : memberName name =
      String.ofList (Text.lowerWord first ++ later.flatMap Text.capitalize) := by
    rw [memberName, words.splitOn_eq joined]
  rw [same, String.toList_ofList, Text.lowerWord_of_isSmall words.small]

theorem flatMap_openCapital (words : CanonicalWords first later) :
    (later.flatMap Text.capitalize).flatMap Text.openCapital = later.flatMap ('_' :: ·) := by
  rw [List.flatMap_assoc]
  exact List.flatMap_congr fun word member =>
    (words.letterWords word member).flatMap_openCapital_capitalize

end CanonicalWords

namespace IsCanonical

variable {name other : String}

/-- The words of a canonical name are its parts between underscores. -/
theorem iff_splitOn : IsCanonical name ↔
    ∃ first later, name.toList.splitOn '_' = first :: later ∧ CanonicalWords first later := by
  constructor
  · rintro ⟨first, later, words, joined⟩
    exact ⟨first, later, words.splitOn_eq joined, words⟩
  · rintro ⟨first, later, split, words⟩
    exact ⟨first, later, words, by rw [← split, List.intercalate_splitOn]⟩

theorem wireNameOf_memberName (canonical : IsCanonical name) :
    wireNameOf (memberName name) = name := by
  obtain ⟨first, later, words, joined⟩ := canonical
  rw [← String.toList_inj, wireNameOf, String.toList_ofList, words.toList_memberName joined,
    List.flatMap_append, Text.flatMap_openCapital words.small, words.flatMap_openCapital, joined,
    intercalate_cons_eq_append]

theorem eq_of_memberName (canonical : IsCanonical name) (also : IsCanonical other)
    (same : memberName name = memberName other) : name = other := by
  rw [← canonical.wireNameOf_memberName, same, also.wireNameOf_memberName]

end IsCanonical

/-! ### Deciding -/

instance (word : List Char) : Decidable (LetterWord word) :=
  decidable_of_iff (word.head?.any Char.isLower = true ∧ word.all Text.isSmall = true) <| by
    rw [List.all_eq_true]
    exact ⟨fun ⟨letter, small⟩ => ⟨letter, small⟩, fun ⟨letter, small⟩ => ⟨letter, small⟩⟩

instance (first : List Char) (later : List (List Char)) : Decidable (CanonicalWords first later) :=
  decidable_of_iff
    (first ≠ [] ∧ first.all Text.isSmall = true ∧ ∀ word ∈ later, LetterWord word) <| by
    rw [List.all_eq_true]
    exact ⟨fun ⟨nonempty, small, letterWords⟩ => ⟨nonempty, small, letterWords⟩,
      fun ⟨nonempty, small, letterWords⟩ => ⟨nonempty, small, letterWords⟩⟩

instance (name : String) : Decidable (IsCanonical name) :=
  match split : name.toList.splitOn '_' with
  | [] => .isFalse fun _ => List.splitOn_ne_nil '_' name.toList split
  | first :: later => decidable_of_iff (CanonicalWords first later) <| by
    rw [IsCanonical.iff_splitOn, split]
    constructor
    · exact fun words => ⟨first, later, rfl, words⟩
    · rintro ⟨_, _, same, words⟩
      cases same
      exact words

/-! ### Identifiers in camel case -/

/-- Letters and digits, the first of which is no capital. -/
structure IsCamelCase (name : String) : Prop where
  letters : ∀ c ∈ name.toList, c.isAlphanum = true
  start : ∃ c ∈ name.toList.head?, ¬ c.isUpper = true

/-- A text of letters and digits is cut before each capital. The part before the first capital may
be empty. -/
theorem Text.exists_words {cs : List Char} (letters : ∀ c ∈ cs, c.isAlphanum = true) :
    ∃ (first : List Char) (later : List (List Char)), (∀ c ∈ first, isSmall c = true) ∧
      (∀ word ∈ later, LetterWord word) ∧ cs = first ++ later.flatMap capitalize := by
  induction cs with
  | nil => exact ⟨[], [], nofun, nofun, rfl⟩
  | cons c rest ih =>
    obtain ⟨letter, others⟩ := List.forall_mem_cons.mp letters
    obtain ⟨first, later, small, letterWords, rfl⟩ := ih others
    by_cases upper : c.isUpper = true
    · have lower : c.toLower.isLower = true := by simp [Char.isAlpha, upper]
      have next : LetterWord (c.toLower :: first) := .cons lower small
      obtain ⟨_, _, same, _, _, capital⟩ := next.capitalized
      cases same
      rw [Char.toUpper_toLower_eq_toUpper,
        Char.toUpper_eq_of_not_isLower (Char.not_isLower_of_isUpper upper)] at capital
      refine ⟨[], (c.toLower :: first) :: later, nofun,
        List.forall_mem_cons.mpr ⟨next, letterWords⟩, ?_⟩
      rw [List.flatMap_cons, capital]
      rfl
    · have smallHead : isSmall c = true := by
        simpa [Char.isAlphanum, Char.isAlpha, upper, isSmall] using letter
      exact ⟨c :: first, later, List.forall_mem_cons.mpr ⟨smallHead, small⟩, letterWords, rfl⟩

theorem Text.isUpper_head_flatMap_capitalize {words : List (List Char)} {c : Char}
    (letterWords : ∀ word ∈ words, LetterWord word)
    (head : c ∈ (words.flatMap capitalize).head?) : c.isUpper = true := by
  cases words with
  | nil => cases head
  | cons word rest =>
    obtain ⟨d, _, rfl, letter, _, capital⟩ := (letterWords word List.mem_cons_self).capitalized
    rw [List.flatMap_cons, capital] at head
    obtain rfl : d.toUpper = c := Option.some.inj head
    simp [Char.isAlpha, letter]

theorem LetterWord.isAlphanum_of_mem_capitalize {word : List Char} (shape : LetterWord word)
    {c : Char} (member : c ∈ Text.capitalize word) : c.isAlphanum = true := by
  obtain ⟨d, rest, rfl, letter, small, capital⟩ := shape.capitalized
  rw [capital] at member
  rcases List.mem_cons.mp member with rfl | later
  · simp [Char.isAlphanum, Char.isAlpha, letter]
  · exact Text.isAlphanum_of_isSmall (small c later)

/-- The member names of canonical names are the identifiers in camel case, all of them. -/
theorem isCamelCase_iff {name : String} :
    IsCamelCase name ↔ ∃ wireName, IsCanonical wireName ∧ memberName wireName = name := by
  constructor
  · rintro ⟨letters, c, head, small⟩
    obtain ⟨first, later, smallFirst, letterWords, cut⟩ := Text.exists_words letters
    have nonempty : first ≠ [] := by
      rintro rfl
      rw [cut, List.nil_append] at head
      exact small (Text.isUpper_head_flatMap_capitalize letterWords head)
    have words : CanonicalWords first later := ⟨nonempty, smallFirst, letterWords⟩
    have joined := String.toList_ofList (l := ['_'].intercalate (first :: later))
    refine ⟨_, ⟨first, later, words, joined⟩, ?_⟩
    rw [← String.toList_inj, words.toList_memberName joined, cut]
  · rintro ⟨wireName, ⟨first, later, words, joined⟩, rfl⟩
    constructor
    · rw [words.toList_memberName joined]
      refine List.forall_mem_append.mpr
        ⟨fun c member => Text.isAlphanum_of_isSmall (words.small c member), fun c member => ?_⟩
      obtain ⟨word, within, inWord⟩ := List.mem_flatMap.mp member
      exact (words.letterWords word within).isAlphanum_of_mem_capitalize inWord
    · obtain ⟨c, rest, rfl⟩ := List.exists_cons_of_ne_nil words.nonempty
      rw [words.toList_memberName joined]
      exact ⟨c, rfl, Text.not_isUpper_of_isSmall (words.small c List.mem_cons_self)⟩

/-! ### Names in JSON texts -/

namespace Pool

variable {cs rest : List Char}

theorem joinWords_append (small : ∀ c ∈ cs, Text.isSmall c = true) :
    joinWords false (cs ++ rest) = cs ++ joinWords false rest := by
  induction cs with
  | nil => rfl
  | cons c cs ih =>
    have noUnderscore : c ≠ '_' := by
      rintro rfl
      exact absurd (small '_' List.mem_cons_self) (by decide)
    rw [List.cons_append, joinWords, if_neg noUnderscore,
      ih fun d member => small d (List.mem_cons_of_mem c member)]
    rfl

theorem joinWords_later {later : List (List Char)}
    (letterWords : ∀ word ∈ later, LetterWord word) :
    joinWords false (later.flatMap ('_' :: ·)) = later.flatMap Text.capitalize := by
  induction later with
  | nil => rfl
  | cons word later ih =>
    obtain ⟨shape, others⟩ := List.forall_mem_cons.mp letterWords
    obtain ⟨c, rest, rfl, letter, small, capital⟩ := shape.capitalized
    have noUnderscore : c ≠ '_' := by
      rintro rfl
      exact absurd letter (by decide)
    rw [List.flatMap_cons, List.flatMap_cons, capital, List.cons_append, joinWords, if_pos rfl,
      List.cons_append, joinWords, if_neg noUnderscore, if_pos rfl, joinWords_append small,
      ih others]
    rfl

end Pool

/-- A field with a canonical name is called in memory as it is in JSON texts. -/
theorem IsCanonical.memberName_eq_jsonName {field : FieldDescriptor}
    (canonical : IsCanonical field.name) (unnamed : field.jsonName = none) :
    memberName field.name = Pool.effectiveJsonName field := by
  obtain ⟨first, later, words, joined⟩ := canonical
  rw [← String.toList_inj, words.toList_memberName joined, Pool.effectiveJsonName, unnamed,
    Option.getD_none, String.toList_ofList, joined, intercalate_cons_eq_append,
    Pool.joinWords_append words.small, Pool.joinWords_later words.letterWords]

/-! ### Member names of models -/

theorem underscore_not_mem_memberName {name : String} (ascii : isAscii name = true) :
    '_' ∉ (memberName name).toList := by
  intro member
  have lowered : '_' ∈ (memberName name).toList.map Char.toLower := List.mem_map_of_mem member
  rw [toLower_memberName ascii] at lowered
  obtain ⟨c, kept, toUnderscore⟩ := List.mem_map.mp lowered
  have other : c ≠ '_' := by simpa using (List.mem_filter.mp kept).2
  by_cases upper : c.isUpper = true
  · have letter : c.toLower.isLower = true := by simp [Char.isAlpha, upper]
    rw [toUnderscore] at letter
    exact absurd letter (by decide)
  · exact other (Char.toLower_eq_of_not_isUpper upper ▸ toUnderscore)

namespace Model.Mirrors

variable {model : Model} {view : Pool.View} {file : FileDescriptor} {tree : MessageTree}

theorem name_eq_memberName (mirrors : model.Mirrors view file tree) {field : Field}
    (member : field ∈ model.fields) : field.name = memberName field.wireName := by
  obtain ⟨fields, reordered, each⟩ := mirrors.fields
  obtain ⟨descriptor, _, same⟩ := exists_of_mem_forall₂ each (reordered.symm.subset member)
  rw [same.name, same.wireName]

theorem canonical_names_apart (mirrors : model.Mirrors view file tree)
    (distinct : (tree.root.fields.map (·.name)).Nodup) : model.fields.Pairwise fun a b =>
      IsCanonical a.wireName → IsCanonical b.wireName → a.name ≠ b.name := by
  have wireNames := List.pairwise_map.mp (mirrors.wireNames.nodup_iff.mpr distinct)
  refine wireNames.imp_of_mem fun {a b} first second apart canonical also same => apart ?_
  rw [mirrors.name_eq_memberName first, mirrors.name_eq_memberName second] at same
  exact canonical.eq_of_memberName also same

end Model.Mirrors

/-- A canonical wire name is read off its member name again, so two of them never have one member
name. They do not in any model that is extracted from accepted files, whatever the dialect of its
message. The member name of any ASCII name is the name without its underscores, up to the case of
letters. -/
theorem canonical_names_recovered :
    (∀ name, IsCanonical name → wireNameOf (memberName name) = name) ∧
    (∀ name other, IsCanonical name → IsCanonical other → memberName name = memberName other →
      name = other) ∧
    (∀ files schema, Schema.ofFiles files = .ok schema →
      ∃ catalog, Catalog.ofFiles files = .ok catalog ∧
        List.Forall₂ (fun file outline => List.Forall₂ (fun tree model =>
            (model.fields.map (·.wireName)).Perm (tree.root.fields.map (·.name)) ∧
            model.fields.Pairwise fun a b =>
              IsCanonical a.wireName → IsCanonical b.wireName → a.name ≠ b.name)
            file.messages outline.models)
          (files.filter (·.name ≠ timestampFile)) catalog.outlines) ∧
    ∀ name, isAscii name = true → '_' ∉ (memberName name).toList ∧
      (memberName name).toList.map Char.toLower =
        (name.toList.filter (· != '_')).map Char.toLower := by
  refine ⟨fun _ canonical => canonical.wireNameOf_memberName,
    fun _ _ canonical also same => canonical.eq_of_memberName also same, ?_,
    fun _ ascii => ⟨underscore_not_mem_memberName ascii, toLower_memberName ascii⟩⟩
  intro files schema accepted
  obtain ⟨names, _, checked, known⟩ := Schema.ofFiles_eq_ok accepted
  refine ⟨schema.extracted, Catalog.ofFiles_eq_ok accepted, known.outlines_related ?_⟩
  intro file present resolved run
  have mirrored := Schema.File.mirrors_outline (checked file present) run
  refine (forall₂_and_mem mirrored.models).imp fun tree model ⟨declared, mirrors⟩ => ?_
  have distinct := known.distinct_fieldNames present declared
  exact ⟨mirrors.wireNames, mirrors.canonical_names_apart distinct⟩

/-- A name that begins with a digit, a message in the older dialect, and a name that is not
canonical. -/
theorem canonical_names_recovered_party :
    IsCanonical "2nd_guest_x1" ∧ wireNameOf (memberName "2nd_guest_x1") = "2nd_guest_x1" ∧
      memberName "2nd_guest_x1" ≠ memberName "2nd_guestx1" ∧
      (∃ catalog outline party rest, Catalog.ofFiles partyFiles = .ok catalog ∧
        catalog.outlines = [outline] ∧ outline.models = party :: rest ∧
        (party.fields.map (·.wireName)).Perm ["start_time", "guest_list", "cake"] ∧
        (party.fields.map (·.name)).Nodup) ∧
      '_' ∉ (memberName "_user__ID").toList := by
  obtain ⟨inverse, injective, models, ascii⟩ := canonical_names_recovered
  have guest : IsCanonical "2nd_guest_x1" := by decide
  have other : IsCanonical "2nd_guestx1" := by decide
  refine ⟨guest, inverse _ guest, fun same => ?_, ?_, (ascii "_user__ID" (by decide)).1⟩
  · exact absurd (injective _ _ guest other same) (by decide)
  · obtain ⟨catalog, run, named⟩ := models partyFiles partySchema partyFiles_accepted
    have kept : partyFiles.filter (·.name ≠ timestampFile) = [partyFile] := rfl
    rw [kept] at named
    obtain ⟨outline, _, messages, none, only⟩ := List.forall₂_cons_left_iff.mp named
    cases none
    obtain ⟨party, rest, ⟨wireNames, apart⟩, _, split⟩ := List.forall₂_cons_left_iff.mp messages
    have listed : ∀ name ∈ ["start_time", "guest_list", "cake"], IsCanonical name := by decide
    have canonical : ∀ field ∈ party.fields, IsCanonical field.wireName := fun field member =>
      listed field.wireName (wireNames.subset (List.mem_map_of_mem member))
    refine ⟨catalog, outline, party, rest, run, only, split, wireNames, ?_⟩
    refine List.pairwise_map.mpr (apart.imp_of_mem fun first second different => ?_)
    exact different (canonical _ first) (canonical _ second)

/-- Without a letter at the beginning of the second word nothing shows where it began. -/
example : ¬ IsCanonical "a_1" ∧ memberName "a_1" = memberName "a1" := by decide

end FlowClients
