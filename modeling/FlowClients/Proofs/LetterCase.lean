import FlowClients.Pool.Names
import FlowClients.Proofs.ClosedModule
import Mathlib

/-!
Letter case of ASCII names. Making a wire name a member name drops its underscores and changes
nothing but the case of letters, and two names have the same call name exactly if they are the same
or differ in the case of their first letter.
-/

namespace FlowClients

def isAscii (name : String) : Bool := name.toList.all Char.isAscii

namespace Text

variable {c : Char} {cs : List Char}

theorem isAscii_of_isAlphanum (letter : c.isAlphanum = true) : c.isAscii = true := by
  refine decide_eq_true (?_ : c.toNat < 128)
  simp only [Char.isAlphanum, Char.isAlpha, Char.isUpper, Char.isLower, Char.isDigit,
    Bool.or_eq_true, Bool.and_eq_true, decide_eq_true_eq, ge_iff_le, UInt32.le_iff_toNat_le,
    Char.reduceVal, UInt32.reduceToNat, Char.toNat_val] at letter
  omega

theorem lowerChar_of_isAscii (ascii : c.isAscii = true) : lowerChar c = [c.toLower] := by
  have small : c.toNat < 0x80 := of_decide_eq_true ascii
  rw [lowerChar, if_pos small]

theorem upperChar_of_isAscii (ascii : c.isAscii = true) : upperChar c = [c.toUpper] := by
  have small : c.toNat < 0x80 := of_decide_eq_true ascii
  rw [upperChar, if_pos small]

/-- The rule for sigma does not matter in a word without one. -/
theorem lowerFrom_of_isAscii (before : List Char) (ascii : ∀ c ∈ cs, c.isAscii = true) :
    lowerFrom before cs = cs.map Char.toLower := by
  induction cs generalizing before with
  | nil => rfl
  | cons c rest ih =>
    have first := ascii c List.mem_cons_self
    have noSigma : c ≠ 'Σ' := by
      rintro rfl
      exact absurd first (by decide)
    have later := ih (c :: before) fun d member => ascii d (List.mem_cons_of_mem _ member)
    rw [lowerFrom, if_neg noSigma, lowerChar_of_isAscii first, later]
    rfl

theorem toLower_lowerWord (ascii : ∀ c ∈ cs, c.isAscii = true) :
    (lowerWord cs).map Char.toLower = cs.map Char.toLower := by
  rw [lowerWord, lowerFrom_of_isAscii [] ascii, List.map_map]
  exact List.map_congr_left fun c _ => Char.toLower_toLower_eq_toLower c

theorem toLower_capitalize (ascii : ∀ c ∈ cs, c.isAscii = true) :
    (capitalize cs).map Char.toLower = cs.map Char.toLower := by
  cases cs with
  | nil => rfl
  | cons c rest =>
    have later : ∀ d ∈ rest, d.isAscii = true := fun d member =>
      ascii d (List.mem_cons_of_mem _ member)
    rw [capitalize, upperChar_of_isAscii (ascii c List.mem_cons_self), List.map_append,
      toLower_lowerWord later, List.map_singleton, Char.toLower_toUpper_eq_toLower]
    rfl

theorem toLower_flatMap_capitalize {words : List (List Char)}
    (ascii : ∀ word ∈ words, ∀ c ∈ word, c.isAscii = true) :
    (words.flatMap capitalize).map Char.toLower = words.flatten.map Char.toLower := by
  induction words with
  | nil => rfl
  | cons word words ih =>
    have head := toLower_capitalize (ascii word List.mem_cons_self)
    have tail := ih fun next member => ascii next (List.mem_cons_of_mem _ member)
    rw [List.flatMap_cons, List.flatten_cons, List.map_append, List.map_append, head, tail]

end Text

theorem isAscii_of_identifier {name : String} (identifier : isIdentifier name = true) :
    isAscii name = true := by
  refine List.all_eq_true.mpr fun c member => ?_
  rcases isIdentifier_apart identifier c member with letter | rfl
  · exact Text.isAscii_of_isAlphanum letter
  · rfl

/-! ### Member names -/

/-- Nothing but the separators is lost when a text is split. -/
theorem flatten_splitOn (separator : Char) (text : List Char) :
    (text.splitOn separator).flatten = text.filter (· != separator) := by
  induction text with
  | nil => rfl
  | cons c rest ih =>
    obtain ⟨word, words, split⟩ := List.exists_cons_of_ne_nil (List.splitOn_ne_nil separator rest)
    rw [split] at ih
    rw [List.splitOn_cons_eq_if_modifyHead, split]
    by_cases same : c = separator
    · simp [same, ← ih]
    · simp [same, ← ih]

/-- Up to letter case, the member name of an ASCII name is the name without its underscores. -/
theorem toLower_memberName {name : String} (ascii : isAscii name = true) :
    (memberName name).toList.map Char.toLower = Pool.foldedName name := by
  have whole := flatten_splitOn '_' name.toList
  have inWords : ∀ word ∈ name.toList.splitOn '_', ∀ c ∈ word, c.isAscii = true := by
    intro word within c member
    have kept : c ∈ name.toList.filter (· != '_') := whole ▸ List.mem_flatten_of_mem within member
    exact List.all_eq_true.mp ascii c (List.mem_filter.mp kept).1
  obtain ⟨first, words, split⟩ :=
    List.exists_cons_of_ne_nil (List.splitOn_ne_nil '_' name.toList)
  rw [split] at whole inWords
  have member : memberName name =
      String.ofList (Text.lowerWord first ++ words.flatMap Text.capitalize) := by
    rw [memberName, split]
  rw [member, String.toList_ofList, List.map_append,
    Text.toLower_lowerWord (inWords first List.mem_cons_self),
    Text.toLower_flatMap_capitalize fun word within => inWords word (List.mem_cons_of_mem _ within),
    Pool.foldedName, ← whole, List.flatten_cons, List.map_append]

/-! ### Call names -/

/-- The second name is the first with a capital in place of its small first letter. -/
def isCapitalOf (small capital : String) : Bool :=
  match small.toList, capital.toList with
  | c :: cs, d :: ds => c.isLower && d == c.toUpper && cs == ds
  | _, _ => false

/-- The name is the word, whose first letter may be a capital in it. -/
def isWord (word name : String) : Bool := name == word || isCapitalOf word name

def startsSmall (name : String) : Bool := name.toList.head?.any Char.isLower

theorem Text.toLower_eq_iff {c d : Char} : c.toLower = d.toLower ↔
    c = d ∨ (c.isLower = true ∧ d = c.toUpper) ∨ (d.isLower = true ∧ c = d.toUpper) := by
  constructor
  · intro same
    have capitals : c.toUpper = d.toUpper := by
      rw [← Char.toUpper_toLower_eq_toUpper c, same, Char.toUpper_toLower_eq_toUpper]
    by_cases first : c.isLower <;> by_cases second : d.isLower
    · rw [Char.toLower_eq_of_not_isUpper (Char.not_isUpper_of_isLower first),
        Char.toLower_eq_of_not_isUpper (Char.not_isUpper_of_isLower second)] at same
      exact Or.inl same
    · rw [Char.toUpper_eq_of_not_isLower second] at capitals
      exact Or.inr (Or.inl ⟨first, capitals.symm⟩)
    · rw [Char.toUpper_eq_of_not_isLower first] at capitals
      exact Or.inr (Or.inr ⟨second, capitals⟩)
    · rw [Char.toUpper_eq_of_not_isLower first, Char.toUpper_eq_of_not_isLower second] at capitals
      exact Or.inl capitals
  · rintro (rfl | ⟨_, rfl⟩ | ⟨_, rfl⟩)
    · rfl
    · exact (Char.toLower_toUpper_eq_toLower c).symm
    · exact Char.toLower_toUpper_eq_toLower d

theorem toList_decapitalize {name : String} (ascii : isAscii name = true) :
    (decapitalize name).toList = name.toList.modifyHead Char.toLower := by
  unfold decapitalize
  split
  · rename_i text
    rw [text]
    rfl
  · rename_i c cs text
    have first : c.isAscii = true := List.all_eq_true.mp ascii c (text ▸ List.mem_cons_self)
    rw [text, Text.lowerChar_of_isAscii first, String.toList_ofList]
    rfl

theorem decapitalize_eq_iff {a b : String} (ascii : isAscii a = true) (asciiToo : isAscii b = true) :
    decapitalize a = decapitalize b ↔
      a = b ∨ isCapitalOf a b = true ∨ isCapitalOf b a = true := by
  rw [← String.toList_inj, toList_decapitalize ascii, toList_decapitalize asciiToo,
    ← String.toList_inj, isCapitalOf, isCapitalOf]
  cases a.toList with
  | nil => cases b.toList <;> simp
  | cons c cs =>
    cases b.toList with
    | nil => simp
    | cons d ds =>
      simp only [List.modifyHead_cons, List.cons.injEq, Text.toLower_eq_iff, Bool.and_eq_true,
        beq_iff_eq]
      tauto

theorem startsSmall_of_isCapitalOf {small capital : String}
    (capitalized : isCapitalOf small capital = true) :
    startsSmall small = true ∧ startsSmall capital = false := by
  unfold isCapitalOf at capitalized
  split at capitalized
  · rename_i c cs d ds first second
    simp only [Bool.and_eq_true, beq_iff_eq] at capitalized
    obtain ⟨⟨isSmall, rfl⟩, _⟩ := capitalized
    simp [startsSmall, first, second, isSmall]
  · cases capitalized

theorem ne_of_isCapitalOf {small capital : String} (capitalized : isCapitalOf small capital = true) :
    small ≠ capital := by
  rintro rfl
  obtain ⟨isSmall, isCapital⟩ := startsSmall_of_isCapitalOf capitalized
  exact absurd isSmall (isCapital ▸ Bool.false_ne_true)

theorem decapitalize_of_startsSmall {name : String} (ascii : isAscii name = true)
    (small : startsSmall name = true) : decapitalize name = name := by
  rw [← String.toList_inj, toList_decapitalize ascii]
  unfold startsSmall at small
  cases text : name.toList with
  | nil => rfl
  | cons c cs =>
    rw [text] at small
    have isSmall : c.isLower = true := small
    rw [List.modifyHead_cons, Char.toLower_eq_of_not_isUpper (Char.not_isUpper_of_isLower isSmall)]

/-- A word in small letters is the call name of the names that it is in. -/
theorem decapitalize_eq_word {name word : String} (ascii : isAscii name = true)
    (wordAscii : isAscii word = true) (small : startsSmall word = true) :
    decapitalize name = word ↔ isWord word name = true := by
  have notCapital : isCapitalOf name word ≠ true := fun capitalized =>
    absurd small ((startsSmall_of_isCapitalOf capitalized).2 ▸ Bool.false_ne_true)
  conv_lhs => rw [← decapitalize_of_startsSmall wordAscii small]
  rw [decapitalize_eq_iff ascii wordAscii, isWord, Bool.or_eq_true, beq_iff_eq]
  simp [notCapital]

end FlowClients
