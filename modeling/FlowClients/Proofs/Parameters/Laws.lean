import FlowClients.Failure
import FlowClients.Proofs.Parameters.Reading

/-!
The laws of plugin parameters. What is refused and what is bound is decided by the parts alone; two
parameters joined by a comma fail like the first one that fails, or the second overrides the first;
written bindings are read back; and the version hangs on the last binding of its key.
-/

namespace FlowClients

namespace Text

/-- The text neither begins nor ends with white space. -/
def IsTrimmed (cs : List Char) : Prop :=
  (∀ c ∈ cs.head?, isBlank c = false) ∧ ∀ c ∈ cs.getLast?, isBlank c = false

instance : DecidablePred IsTrimmed := fun cs =>
  decidable_of_iff (cs.head?.all (!isBlank ·) ∧ cs.getLast?.all (!isBlank ·))
    (by simp [IsTrimmed, Option.all_eq_true])

theorem dropWhile_isBlank {cs : List Char} (solid : ∀ c ∈ cs.head?, isBlank c = false) :
    cs.dropWhile isBlank = cs := by
  cases cs with
  | nil => rfl
  | cons c rest => rw [List.dropWhile_cons_of_neg (by simp [solid c rfl])]

theorem IsTrimmed.trim_eq {cs : List Char} (trimmed : IsTrimmed cs) : trim cs = cs := by
  have atEnd : ∀ c ∈ cs.reverse.head?, isBlank c = false := by
    rw [List.head?_reverse]
    exact trimmed.2
  rw [trim, dropWhile_isBlank trimmed.1, trimRight, dropWhile_isBlank atEnd, List.reverse_reverse]

/-- Trimmed texts around a solid character are together trimmed. -/
theorem IsTrimmed.append_cons {first second : List Char} {c : Char} (begins : IsTrimmed first)
    (solid : isBlank c = false) (ends : IsTrimmed second) :
    IsTrimmed (first ++ c :: second) := by
  constructor
  · cases first with
    | nil => simpa using solid
    | cons d rest => simpa using begins.1
  · cases second with
    | nil => simpa using solid
    | cons d rest => simpa using ends.2

end Text

namespace Version

variable {name : String}

theorem ofName_eq_ok {version : Version} : ofName name = .ok version ↔ name = version.name := by
  unfold ofName
  split_ifs with isV5 isV6
  · subst isV5
    cases version <;> simp [Version.name]
  · subst isV6
    cases version <;> simp [Version.name]
  · cases version <;> simp [Version.name, isV5, isV6]

theorem ofName_eq_error {error : ParameterError} : ofName name = .error error ↔
    name ≠ "v5" ∧ name ≠ "v6" ∧ error = .unknownVersion name := by
  unfold ofName
  split_ifs with isV5 isV6
  · simp [isV5]
  · simp [isV6]
  · simp [isV5, isV6, eq_comm]

end Version

namespace Parameter

/-! ### One parameter -/

/-- What becomes of a parameter. -/
structure Verdict (parameter : String) : Prop where
  refused_iff : (∃ error, bindings parameter = .error error) ↔
    ∃ part ∈ parts parameter, IsBare part
  refused : ∀ error, bindings parameter = .error error ↔
    ∃ part, FirstBare (parts parameter) part ∧ error = .keyWithoutValue (String.ofList part)
  /-- The error concerns an option, and its text quotes the part. -/
  reported : ∀ part, (Failure.parameter (.keyWithoutValue part)).failureClass = .option ∧
    (Failure.parameter (.keyWithoutValue part)).message =
      "Config error: invalid parameter '" ++ part ++ "', expected key=value"
  accepted : (∀ part ∈ parts parameter, ¬ IsBare part) →
    ∃ known, bindings parameter = .ok known ∧ known.Increasing ∧
      (∀ key, (∃ value, (key, value) ∈ known) ↔
        ∃ part ∈ parts parameter, ∃ value, Binds part key value) ∧
      ∀ key value, (key, value) ∈ known ↔ LastBinds (parts parameter) key value

theorem verdict (parameter : String) : Verdict parameter where
  refused_iff := by
    rw [← exists_firstBare]
    constructor
    · rintro ⟨error, run⟩
      obtain ⟨part, first, _⟩ := readParts_eq_error.mp run
      exact ⟨part, first⟩
    · rintro ⟨part, first⟩
      exact ⟨_, readParts_eq_error.mpr ⟨part, first, rfl⟩⟩
  refused _ := readParts_eq_error
  reported part := by
    have text : (Failure.parameter (.keyWithoutValue part)).message =
        "Config error: " ++ ("invalid parameter '" ++ part ++ "', expected key=value") := rfl
    refine ⟨rfl, ?_⟩
    rw [text, ← String.toList_inj]
    simp
  accepted solid := by
    obtain ⟨known, run⟩ := exists_of_readParts [] solid
    have increasing := increasing_of_bindings run
    have bound : ∀ key value, (key, value) ∈ known ↔ LastBinds (parts parameter) key value :=
      fun key value => increasing.mem_iff.trans (get?_of_bindings run key value)
    refine ⟨known, run, increasing, fun key => ?_, bound⟩
    simp only [bound, exists_lastBinds, NoneBinds, not_forall, not_not, exists_prop]

/-! ### Two parameters -/

/-- What becomes of two parameters that are joined by a comma. -/
structure Joins (first second : String) : Prop where
  first_error : ∀ error, bindings first = .error error →
    bindings (first ++ "," ++ second) = .error error
  second_error : ∀ known error, bindings first = .ok known → bindings second = .error error →
    bindings (first ++ "," ++ second) = .error error
  overridden : ∀ known later, bindings first = .ok known → bindings second = .ok later →
    ∃ both, bindings (first ++ "," ++ second) = .ok both ∧ both.Increasing ∧
      ∀ key, both.get? key = (later.get? key).or (known.get? key)

theorem parts_comma (first second : String) :
    parts (first ++ "," ++ second) = parts first ++ parts second := by
  have text : (first ++ "," ++ second).toList = first.toList ++ ',' :: second.toList := by simp
  rw [parts, text, List.splitOn_append_cons_self, List.map_append]
  rfl

theorem bindings_comma (first second : String) :
    bindings (first ++ "," ++ second) = (bindings first >>= (readParts · (parts second))) := by
  rw [bindings_eq, parts_comma, readParts_append, ← bindings_eq]

theorem joins (first second : String) : Joins first second where
  first_error error run := by
    rw [bindings_comma, run]
    rfl
  second_error known error run later := by
    rw [bindings_comma, run]
    exact readParts_eq_error.mpr (readParts_eq_error.mp later)
  overridden known later run laterRun := by
    have solid : ∀ part ∈ parts second, ¬ IsBare part := by
      intro part member bare
      obtain ⟨error, refused⟩ := (verdict second).refused_iff.mpr ⟨part, member, bare⟩
      cases laterRun.symm.trans refused
    obtain ⟨both, read⟩ := exists_of_readParts known solid
    refine ⟨both, ?_, increasing_of_readParts read (increasing_of_bindings run), fun key => ?_⟩
    · rw [bindings_comma, run]
      exact read
    · cases found : later.get? key with
      | some value =>
        have last := (get?_of_bindings laterRun key value).mp found
        exact (get?_of_readParts read key value).mpr (Or.inl last)
      | none =>
        have none := (get?_eq_none_of_bindings laterRun key).mp found
        rw [Option.none_or]
        ext value
        have unbound : ¬ LastBinds (parts second) key value := fun last => last.not_noneBinds none
        rw [get?_of_readParts read key value]
        simp only [unbound, none, false_or, true_and]

/-! ### Written bindings -/

def bindingText (pair : String × String) : String := pair.1 ++ "=" ++ pair.2

/-- Bindings as a parameter. -/
def written (pairs : List (String × String)) : String := ",".intercalate (pairs.map bindingText)

/-- Both texts are trimmed and without commas, and the key is without equals signs. -/
structure IsWritable (pair : String × String) : Prop where
  trimmedKey : Text.IsTrimmed pair.1.toList
  trimmedValue : Text.IsTrimmed pair.2.toList
  comma_notMem_key : ',' ∉ pair.1.toList
  comma_notMem_value : ',' ∉ pair.2.toList
  equals_notMem_key : '=' ∉ pair.1.toList

variable {pair : String × String} {pairs : List (String × String)}

theorem toList_bindingText (pair : String × String) :
    (bindingText pair).toList = pair.1.toList ++ '=' :: pair.2.toList := by
  simp [bindingText]

theorem IsWritable.binds (writable : IsWritable pair) :
    Binds (bindingText pair).toList pair.1 pair.2 := by
  refine ⟨pair.1.toList, pair.2.toList, toList_bindingText pair, writable.equals_notMem_key, ?_, ?_⟩
  · rw [writable.trimmedKey.trim_eq, String.ofList_toList]
  · rw [writable.trimmedValue.trim_eq, String.ofList_toList]

theorem IsWritable.trim_eq (writable : IsWritable pair) :
    Text.trim (bindingText pair).toList = (bindingText pair).toList := by
  rw [toList_bindingText]
  exact (writable.trimmedKey.append_cons (by decide) writable.trimmedValue).trim_eq

theorem parts_written (some : pairs ≠ []) (writable : ∀ pair ∈ pairs, IsWritable pair) :
    parts (written pairs) = pairs.map fun pair => (bindingText pair).toList := by
  have text : (written pairs).toList =
      [','].intercalate (pairs.map fun pair => (bindingText pair).toList) := by
    rw [written, String.toList_intercalate, List.map_map]
    rfl
  have comma : ∀ part ∈ pairs.map (fun pair => (bindingText pair).toList), ',' ∉ part := by
    intro part member
    obtain ⟨pair, listed, rfl⟩ := List.mem_map.mp member
    have plain := writable pair listed
    rw [toList_bindingText]
    simp [plain.comma_notMem_key, plain.comma_notMem_value]
  have cut := List.splitOn_intercalate ',' comma (List.map_eq_nil_iff.not.mpr some)
  rw [parts, text, cut, List.map_map]
  exact List.map_congr_left fun pair listed => (writable pair listed).trim_eq

/-- Where no key is written twice, each is last bound where it is written. -/
theorem lastBinds_written (writable : ∀ pair ∈ pairs, IsWritable pair)
    (distinct : (pairs.map (·.1)).Nodup) {key value : String} :
    LastBinds (pairs.map fun pair => (bindingText pair).toList) key value ↔
      (key, value) ∈ pairs := by
  induction pairs with
  | nil => exact iff_of_false not_lastBinds_nil nofun
  | cons pair rest ih =>
    obtain ⟨plain, others⟩ := List.forall_mem_cons.mp writable
    obtain ⟨fresh, later⟩ := List.nodup_cons.mp distinct
    rw [List.map_cons, lastBinds_cons, ih others later, List.mem_cons]
    constructor
    · rintro (listed | ⟨binds, _⟩)
      · exact Or.inr listed
      · obtain ⟨sameKey, sameValue⟩ := plain.binds.unique binds
        exact Or.inl (Prod.ext sameKey sameValue)
    · rintro (rfl | listed)
      · refine Or.inr ⟨plain.binds, ?_⟩
        intro part member value binds
        obtain ⟨other, listed, rfl⟩ := List.mem_map.mp member
        obtain ⟨sameKey, _⟩ := (others other listed).binds.unique binds
        exact fresh (List.mem_map.mpr ⟨other, listed, sameKey.symm⟩)
      · exact Or.inl listed

theorem bindings_written {known : Bindings} (increasing : known.Increasing)
    (writable : ∀ pair ∈ known, IsWritable pair) (perm : pairs.Perm known) :
    bindings (written pairs) = .ok known := by
  by_cases nothing : pairs = []
  · subst nothing
    cases perm.nil_eq
    rfl
  · have writable : ∀ pair ∈ pairs, IsWritable pair :=
      fun pair member => writable pair (perm.mem_iff.mp member)
    have distinct : (pairs.map (·.1)).Nodup :=
      (perm.map _).nodup_iff.mpr (List.pairwise_map.mpr (increasing.imp ne_of_lt))
    have solid : ∀ part ∈ parts (written pairs), ¬ IsBare part := by
      intro part member
      rw [parts_written nothing writable] at member
      obtain ⟨pair, listed, rfl⟩ := List.mem_map.mp member
      exact (writable pair listed).binds.not_isBare
    obtain ⟨read, run, sorted, _, bound⟩ := (verdict (written pairs)).accepted solid
    have same : read = known := sorted.eq_of_mem_iff increasing fun key value => by
      rw [bound, parts_written nothing writable, lastBinds_written writable distinct, perm.mem_iff]
    rw [run, same]

/-! ### The version -/

/-- What version a parameter chooses. -/
structure Chooses (parameter : String) : Prop where
  refused : ∀ error, bindings parameter = .error error →
    Version.ofParameter (some parameter) = .error error
  unknown : (∀ part ∈ parts parameter, ¬ IsBare part) → ∀ error,
    Version.ofParameter (some parameter) = .error error ↔
      ∃ name, LastBinds (parts parameter) "version" name ∧ name ≠ "v5" ∧ name ≠ "v6" ∧
        error = .unknownVersion name
  chosen : (∀ part ∈ parts parameter, ¬ IsBare part) → ∀ version,
    Version.ofParameter (some parameter) = .ok version ↔
      LastBinds (parts parameter) "version" version.name ∨
        NoneBinds (parts parameter) "version" ∧ version = .v5
  /-- The error concerns an option, and its text names the value. -/
  reported : ∀ name, (Failure.parameter (.unknownVersion name)).failureClass = .option ∧
    (Failure.parameter (.unknownVersion name)).message =
      "Config error: version is " ++ name ++ ", must be v5 or v6"

/-- Without a bare part, the version is the one that the last binding of its key names. -/
theorem ofParameter_of_solid {parameter : String}
    (solid : ∀ part ∈ parts parameter, ¬ IsBare part) :
    (∃ name, LastBinds (parts parameter) "version" name ∧
      Version.ofParameter (some parameter) = Version.ofName name) ∨
    NoneBinds (parts parameter) "version" ∧ Version.ofParameter (some parameter) = .ok .v5 := by
  obtain ⟨known, run⟩ := exists_of_readParts [] solid
  have read : bindings parameter = .ok known := run
  cases found : known.get? "version" with
  | some name =>
    refine Or.inl ⟨name, (get?_of_bindings read _ _).mp found, ?_⟩
    simp only [Version.ofParameter, read, found, bind, Except.bind]
  | none =>
    refine Or.inr ⟨(get?_eq_none_of_bindings read _).mp found, ?_⟩
    simp only [Version.ofParameter, read, found, bind, Except.bind, pure, Except.pure]

theorem chooses (parameter : String) : Chooses parameter where
  refused error run := by
    simp only [Version.ofParameter, run, bind, Except.bind]
  unknown solid error := by
    rcases ofParameter_of_solid solid with ⟨name, last, run⟩ | ⟨none, run⟩
    · rw [run, Version.ofName_eq_error]
      constructor
      · rintro ⟨notV5, notV6, rfl⟩
        exact ⟨name, last, notV5, notV6, rfl⟩
      · rintro ⟨other, otherLast, notV5, notV6, rfl⟩
        cases last.unique otherLast
        exact ⟨notV5, notV6, rfl⟩
    · rw [run]
      refine iff_of_false nofun ?_
      rintro ⟨name, last, _⟩
      exact last.not_noneBinds none
  chosen solid version := by
    rcases ofParameter_of_solid solid with ⟨name, last, run⟩ | ⟨none, run⟩
    · rw [run, Version.ofName_eq_ok]
      constructor
      · rintro rfl
        exact Or.inl last
      · rintro (otherLast | ⟨none, _⟩)
        · exact last.unique otherLast
        · exact absurd none last.not_noneBinds
    · rw [run]
      constructor
      · rintro ⟨⟩
        exact Or.inr ⟨none, rfl⟩
      · rintro (last | ⟨_, rfl⟩)
        · exact absurd none last.not_noneBinds
        · rfl
  reported name := by
    have text : (Failure.parameter (.unknownVersion name)).message =
        "Config error: " ++ ("version is " ++ name ++ ", must be v5 or v6") := rfl
    refine ⟨rfl, ?_⟩
    rw [text, ← String.toList_inj]
    simp

end Parameter

open Parameter

/-- Reading parameters is exact. What a parameter comes to is told by its parts; joining parameters
keeps the first error or overrides; whatever can be written is read back, in any order; and the last
binding of `version` alone decides on the version. -/
theorem parameters_exact :
    (∀ parameter, Verdict parameter) ∧
    (∀ first second, Joins first second) ∧
    (∀ known : Bindings, known.Increasing → (∀ pair ∈ known, IsWritable pair) →
      ∀ pairs, pairs.Perm known → bindings (written pairs) = .ok known) ∧
    (∀ parameter, Chooses parameter) ∧
    Version.ofParameter none = .ok .v5 :=
  ⟨verdict, joins, fun _ increasing writable _ perm => bindings_written increasing writable perm,
    chooses, rfl⟩

/-- A bare part is quoted, a later parameter overrides, an empty key comes back, and the last
version holds. -/
theorem parameters_exact_samples :
    bindings "a=1,b ,c" = .error (.keyWithoutValue "b") ∧
    (∃ both, bindings (" b = 1 ,, a=2=3" ++ "," ++ "b=,version=v6") = .ok both ∧
      both.get? "a" = some "2=3" ∧ both.get? "b" = some "") ∧
    bindings (written [("k", ""), ("", "x=y")]) = .ok [("", "x=y"), ("k", "")] ∧
    Version.ofParameter (some "version=v5, version = v6") = .ok .v6 := by
  obtain ⟨single, joined, readBack, version, _⟩ := parameters_exact
  refine ⟨?_, ?_, ?_, ?_⟩
  · refine ((single _).refused _).mpr ⟨['b'], ⟨[['a', '=', '1']], [['c']], rfl, ?_, ?_⟩, rfl⟩
    · decide
    · decide
  · obtain ⟨both, run, _, found⟩ := (joined " b = 1 ,, a=2=3" "b=,version=v6").overridden
      [("a", "2=3"), ("b", "1")] [("b", ""), ("version", "v6")] rfl rfl
    exact ⟨both, run, found "a", found "b"⟩
  · refine readBack _ ?_ ?_ _ (List.Perm.swap _ _ _)
    · exact List.pairwise_pair.mpr (by decide)
    · refine List.forall_mem_cons.mpr ⟨⟨?_, ?_, ?_, ?_, ?_⟩,
        List.forall_mem_singleton.mpr ⟨?_, ?_, ?_, ?_, ?_⟩⟩
      all_goals decide
  · have solid : ∀ part ∈ parts "version=v5, version = v6", ¬ IsBare part := by decide
    have last : LastBinds (parts "version=v5, version = v6") "version" "v6" :=
      ⟨["version=v5".toList], "version = v6".toList, [], rfl,
        ⟨"version ".toList, " v6".toList, rfl, by decide, rfl, rfl⟩, nofun⟩
    exact ((version _).chosen solid .v6).mpr (Or.inl last)

end FlowClients
