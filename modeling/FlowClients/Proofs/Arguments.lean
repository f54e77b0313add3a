import FlowClients.CommandLine.Arguments
import FlowClients.Proofs.Success

/-!
Options with their values attached. Read in a row they are added one after the other, so that any
set of schema files, directory and version can be given to the command that generates.
-/

namespace FlowClients.CommandLine

/-- A long option with its value behind an equals sign. -/
def attached (opt : Opt) (value : String) : String := "--" ++ opt.long ++ "=" ++ value

section Attached

variable {level : Level} {opt : Opt} {given : Given}
  (own : level.options.find? (·.long == opt.long) = some opt) (plain : '=' ∉ opt.long.toList)

include own plain

theorem long_attached (given : Given) (value : String) :
    given.long level (opt.long.toList ++ '=' :: value.toList) = given.start opt (some value) := by
  have letters : ∀ c ∈ opt.long.toList, (c != '=') = true :=
    fun c member => bne_iff_ne.mpr fun same => plain (same ▸ member)
  have name : String.ofList ((opt.long.toList ++ '=' :: value.toList).takeWhile (· != '=')) =
      opt.long := by
    rw [List.takeWhile_append_of_pos letters]
    simp
  have rest : (opt.long.toList ++ '=' :: value.toList).dropWhile (· != '=') =
      '=' :: value.toList := by
    rw [List.dropWhile_append_of_pos letters]
    simp
  unfold Given.long
  rw [name, rest]
  dsimp only
  rw [own, String.ofList_toList]

theorem readLevel_attached (inner : level ≠ .top) (given : Given) (value : String)
    (rest : List String) : readLevel level given (attached opt value :: rest) =
      (given.start opt (some value) >>= (readLevel level · rest)) := by
  have text : (attached opt value).toList =
      '-' :: '-' :: (opt.long.toList ++ '=' :: value.toList) := by
    simp [attached]
  rw [← long_attached own plain]
  obtain ⟨c, cs, more⟩ := List.exists_cons_of_ne_nil
    (List.append_ne_nil_of_right_ne_nil opt.long.toList (List.cons_ne_nil '=' value.toList))
  rw [more] at text ⊢
  conv_lhs => unfold readLevel
  rw [if_neg inner]
  simp only [text]

/-- An option that has not been given yet is added with a sound value, and the rest is read. -/
theorem readLevel_attached_of_sound {value : String} (inner : level ≠ .top)
    (settled : given.pending = none) (takes : opt.takesValue = true) (fresh : given.has opt = false)
    (sound : checkValue opt value = .ok ()) (rest : List String) :
    readLevel level given (attached opt value :: rest) =
      readLevel level ⟨given.options ++ [(opt, value)], none⟩ rest := by
  have other : opt ≠ .help ∧ opt ≠ .version := by
    constructor <;> rintro rfl <;> cases takes
  have started : given.start opt (some value) = .ok ⟨given.options ++ [(opt, value)], none⟩ := by
    simp [Given.start, takes, Given.settle, settled, Given.add, other, fresh, sound, bind,
      Except.bind, pure, Except.pure]
  rw [readLevel_attached own plain inner, started]
  rfl

end Attached

/-- The arguments that name a set of schema files, a directory and a version. -/
def generateArguments (path directory : String) (version : Version) : List String :=
  ["generate", attached .descriptorSet path, attached .output directory,
    attached .twirpVersion version.name]

theorem ofArguments_generate {path directory : String} (named : path ≠ "")
    (placed : directory ≠ "") (version : Version) :
    Command.ofArguments (generateArguments path directory version) =
      .ok (.generate path directory version) := by
  have inner : Level.generate ≠ .top := by decide
  have first : checkValue .descriptorSet path = .ok () := if_neg named
  have second : checkValue .output directory = .ok () := if_neg placed
  have third : checkValue .twirpVersion version.name = .ok () := by
    cases version <;> rfl
  have read : readLevel .generate .empty (generateArguments path directory version).tail =
      .ok (⟨[(.descriptorSet, path), (.output, directory), (.twirpVersion, version.name)], none⟩,
        none) := by
    change readLevel .generate .empty [attached .descriptorSet path, attached .output directory,
      attached .twirpVersion version.name] = _
    rw [readLevel_attached_of_sound (by decide) (by decide) inner rfl rfl rfl first,
      readLevel_attached_of_sound (by decide) (by decide) inner rfl rfl rfl second,
      readLevel_attached_of_sound (by decide) (by decide) inner rfl rfl rfl third]
    rfl
  have top : readLevel .top .empty (generateArguments path directory version) =
      .ok (.empty, some (.generate, (generateArguments path directory version).tail)) := rfl
  unfold Command.ofArguments
  rw [top]
  change (readSubcommand .generate _ >>= _) = _
  rw [readSubcommand, read]
  cases version <;> rfl

end FlowClients.CommandLine
