import FlowClients.Json
import Mathlib.Data.List.Basic

/-!
What a JSON text stands for, for values without numbers and null. A text spells tokens, with white
space wherever two of them meet, and a value consists of its tokens. Both ways are unambiguous, so a
text stands for one value at most.
-/

namespace FlowClients

namespace Json

/-! ### Texts between quotes -/

def hexValue? (c : Char) : Option Nat :=
  if '0' ≤ c ∧ c ≤ '9' then some (c.toNat - 48)
  else if 'a' ≤ c ∧ c ≤ 'f' then some (c.toNat - 87)
  else if 'A' ≤ c ∧ c ≤ 'F' then some (c.toNat - 55)
  else none

/-- The number that four hexadecimal digits write. -/
def unit? (a b c d : Char) : Option Nat := do
  return (((← hexValue? a) * 16 + (← hexValue? b)) * 16 + (← hexValue? c)) * 16 + (← hexValue? d)

/-- The letters that may follow a backslash, each with the character it means. -/
def letters : List (Char × Char) := [('"', '"'), ('\\', '\\'), ('/', '/'), ('b', Char.ofNat 8),
  ('f', Char.ofNat 12), ('n', '\n'), ('r', '\r'), ('t', '\t')]

/-- Behind a backslash, the characters begin with what means one character, and the rest follows. -/
inductive Escapes : List Char → Char → List Char → Prop
  | letter {letter c rest} : (letter, c) ∈ letters → Escapes (letter :: rest) c rest
  | unit {a b c d n rest} : unit? a b c d = some n → n.isValidChar →
      Escapes ('u' :: a :: b :: c :: d :: rest) (Char.ofNat n) rest
  /-- A character beyond the first 65536 is written in two halves, neither of them a character. -/
  | halves {a b c d e f g h high low rest} : unit? a b c d = some high → unit? e f g h = some low →
      0xD800 ≤ high → high < 0xDC00 → 0xDC00 ≤ low → low < 0xE000 →
      Escapes ('u' :: a :: b :: c :: d :: '\\' :: 'u' :: e :: f :: g :: h :: rest)
        (Char.ofNat (0x10000 + (high - 0xD800) * 0x400 + (low - 0xDC00))) rest

/-- Behind an opening quote, the characters spell a text up to its closing quote, and the rest
follows. -/
inductive SpellsText : List Char → List Char → List Char → Prop
  | close {rest} : SpellsText ('"' :: rest) [] rest
  | plain {c chars value rest} : c ≠ '"' → c ≠ '\\' → 0x20 ≤ c.toNat →
      SpellsText chars value rest → SpellsText (c :: chars) (c :: value) rest
  | escape {chars c others value rest} : Escapes chars c others →
      SpellsText others value rest → SpellsText ('\\' :: chars) (c :: value) rest

theorem Escapes.unique {chars rest otherRest : List Char} {c other : Char}
    (escapes : Escapes chars c rest) (also : Escapes chars other otherRest) :
    c = other ∧ rest = otherRest := by
  have noUnit : ∀ c, ('u', c) ∉ letters := by simp [letters]
  have halfNotValid : ∀ n : Nat, 0xD800 ≤ n → n < 0xDC00 → ¬ n.isValidChar := by
    intro n above below
    simp only [Nat.isValidChar]
    omega
  cases escapes with
  | letter listed =>
    cases also with
    | letter otherListed =>
      have functional : ∀ first ∈ letters, ∀ second ∈ letters,
          first.1 = second.1 → first = second := by decide
      cases functional _ listed _ otherListed rfl
      exact ⟨rfl, rfl⟩
    | unit => exact absurd listed (noUnit _)
    | halves => exact absurd listed (noUnit _)
  | unit number valid =>
    cases also with
    | letter otherListed => exact absurd otherListed (noUnit _)
    | unit otherNumber =>
      cases number.symm.trans otherNumber
      exact ⟨rfl, rfl⟩
    | halves high _ above below =>
      cases number.symm.trans high
      exact absurd valid (halfNotValid _ above below)
  | halves high low above below =>
    cases also with
    | letter otherListed => exact absurd otherListed (noUnit _)
    | unit number valid =>
      cases number.symm.trans high
      exact absurd valid (halfNotValid _ above below)
    | halves otherHigh otherLow =>
      cases high.symm.trans otherHigh
      cases low.symm.trans otherLow
      exact ⟨rfl, rfl⟩

theorem SpellsText.unique {chars value rest otherValue otherRest : List Char}
    (spells : SpellsText chars value rest) (other : SpellsText chars otherValue otherRest) :
    value = otherValue ∧ rest = otherRest := by
  induction spells generalizing otherValue with
  | close =>
    cases other with
    | close => exact ⟨rfl, rfl⟩
    | plain notQuote => exact absurd rfl notQuote
  | plain notQuote notBackslash _ _ ih =>
    cases other with
    | close => exact absurd rfl notQuote
    | plain _ _ _ others =>
      obtain ⟨sameValue, sameRest⟩ := ih others
      exact ⟨congrArg _ sameValue, sameRest⟩
    | escape => exact absurd rfl notBackslash
  | escape escapes _ ih =>
    cases other with
    | plain _ notBackslash => exact absurd rfl notBackslash
    | escape otherEscapes others =>
      obtain ⟨rfl, rfl⟩ := escapes.unique otherEscapes
      obtain ⟨sameValue, sameRest⟩ := ih others
      exact ⟨congrArg _ sameValue, sameRest⟩

/-- A text may be spelled in other ways than it is printed. -/
example : SpellsText ['\\', 'u', '0', '0', '4', '1', '\\', '/', '"', ','] ['A', '/'] [','] :=
  .escape (.unit rfl (by decide)) (.escape (.letter (by decide)) .close)

/-! ### Tokens -/

inductive Token
  /-- A bracket, a brace, a colon or a comma. -/
  | mark (c : Char)
  | text (value : String)
  | truth (value : Bool)

def marks : List Char := ['[', ']', '{', '}', ':', ',']

def gaps : List Char := [' ', '\t', '\n', '\r']

/-- The characters begin with the token, and the rest follows. -/
inductive Begins : List Char → Token → List Char → Prop
  | mark {c rest} : c ∈ marks → Begins (c :: rest) (.mark c) rest
  | yes {rest} : Begins ('t' :: 'r' :: 'u' :: 'e' :: rest) (.truth true) rest
  | no {rest} : Begins ('f' :: 'a' :: 'l' :: 's' :: 'e' :: rest) (.truth false) rest
  | text {chars value rest} : SpellsText chars value rest →
      Begins ('"' :: chars) (.text (String.ofList value)) rest

/-- The characters are the tokens in order, with white space before, between and after them. -/
inductive Spells : List Char → List Token → Prop
  | done : Spells [] []
  | gap {c chars tokens} : c ∈ gaps → Spells chars tokens → Spells (c :: chars) tokens
  | token {chars token rest tokens} : Begins chars token rest → Spells rest tokens →
      Spells chars (token :: tokens)

variable {chars rest otherRest : List Char}

theorem Begins.unique {token other : Token} (begins : Begins chars token rest)
    (also : Begins chars other otherRest) : token = other ∧ rest = otherRest := by
  cases begins with
  | mark isMark =>
    cases also with
    | mark => exact ⟨rfl, rfl⟩
    | yes | no | text => exact absurd isMark (by decide)
  | yes =>
    cases also with
    | mark isMark => exact absurd isMark (by decide)
    | yes => exact ⟨rfl, rfl⟩
  | no =>
    cases also with
    | mark isMark => exact absurd isMark (by decide)
    | no => exact ⟨rfl, rfl⟩
  | text spells =>
    cases also with
    | mark isMark => exact absurd isMark (by decide)
    | text otherSpells =>
      obtain ⟨rfl, rfl⟩ := spells.unique otherSpells
      exact ⟨rfl, rfl⟩

theorem Begins.notMem_gaps {c : Char} {token : Token} (begins : Begins (c :: chars) token rest) :
    c ∉ gaps := by
  cases begins with
  | mark isMark =>
    have apart : ∀ c ∈ marks, c ∉ gaps := by simp [marks, gaps]
    exact apart c isMark
  | yes | no | text => decide

theorem not_begins_nil {token : Token} : ¬ Begins [] token rest := nofun

theorem Spells.unique {tokens others : List Token} (spells : Spells chars tokens)
    (also : Spells chars others) : tokens = others := by
  induction spells generalizing others with
  | done =>
    cases also with
    | done => rfl
    | token begins => exact absurd begins not_begins_nil
  | gap isGap _ ih =>
    cases also with
    | gap _ later => exact ih later
    | token begins => exact absurd isGap begins.notMem_gaps
  | token begins _ ih =>
    cases also with
    | done => exact absurd begins not_begins_nil
    | gap isGap => exact absurd isGap begins.notMem_gaps
    | token otherBegins later =>
      obtain ⟨rfl, rfl⟩ := begins.unique otherBegins
      rw [ih later]

/-! ### The tokens of a value -/

mutual

/-- The tokens of a value: elements and members are separated by commas. -/
def tokens : Json → List Token
  | .text value => [.text value]
  | .truth value => [.truth value]
  | .array [] => [.mark '[', .mark ']']
  | .array (first :: rest) =>
    .mark '[' :: (first.tokens ++ (elementTokens rest ++ [.mark ']']))
  | .record [] => [.mark '{', .mark '}']
  | .record ((key, value) :: rest) =>
    .mark '{' :: .text key :: .mark ':' :: (value.tokens ++ (memberTokens rest ++ [.mark '}']))

/-- The tokens of the elements after the first. -/
def elementTokens : List Json → List Token
  | [] => []
  | element :: rest => .mark ',' :: (element.tokens ++ elementTokens rest)

/-- The tokens of the members after the first. -/
def memberTokens : List (String × Json) → List Token
  | [] => []
  | (key, value) :: rest =>
    .mark ',' :: .text key :: .mark ':' :: (value.tokens ++ memberTokens rest)

end

/-- The first token tells of which kind the value is. -/
def opening : Json → Token
  | .text value => .text value
  | .truth value => .truth value
  | .array _ => .mark '['
  | .record _ => .mark '{'

theorem head?_tokens_append (json : Json) (after : List Token) :
    (json.tokens ++ after).head? = some json.opening := by
  cases json with
  | text | truth => simp [tokens, opening]
  | array elements => cases elements <;> simp [tokens, opening]
  | record members => cases members <;> simp [tokens, opening]

theorem tokens_append_ne_close {json : Json} {after others : List Token} :
    json.tokens ++ after ≠ .mark ']' :: others := by
  intro same
  have first := head?_tokens_append json after
  rw [same] at first
  cases json <;> simp [opening] at first

mutual

/-- The tokens of a value are not the beginning of another value's tokens. -/
theorem tokens_append_inj {json other : Json} {after others : List Token}
    (same : json.tokens ++ after = other.tokens ++ others) : json = other ∧ after = others := by
  have opened : json.opening = other.opening := by
    rw [← Option.some.injEq, ← head?_tokens_append json after, same, head?_tokens_append]
  -- the first tokens are the same, so both values are of one kind
  match json, other with
  | .text value, other =>
    cases other with
    | text => simpa [tokens] using same
    | _ => cases opened
  | .truth value, other =>
    cases other with
    | truth => simpa [tokens] using same
    | _ => cases opened
  | .array elements, other =>
    cases other with
    | array otherElements =>
      obtain ⟨rfl, rfl⟩ := arrayTokens_append_inj same
      exact ⟨rfl, rfl⟩
    | _ => cases opened
  | .record members, other =>
    cases other with
    | record otherMembers =>
      obtain ⟨rfl, rfl⟩ := recordTokens_append_inj same
      exact ⟨rfl, rfl⟩
    | _ => cases opened

theorem arrayTokens_append_inj {elements otherElements : List Json} {after others : List Token}
    (same : (array elements).tokens ++ after = (array otherElements).tokens ++ others) :
    elements = otherElements ∧ after = others := by
  match elements, otherElements with
  | [], [] => simpa [tokens] using same
  | [], _ :: _ =>
    simp only [tokens, List.cons_append, List.append_assoc, List.cons.injEq, true_and] at same
    exact absurd same.symm tokens_append_ne_close
  | _ :: _, [] =>
    simp only [tokens, List.cons_append, List.append_assoc, List.cons.injEq, true_and] at same
    exact absurd same tokens_append_ne_close
  | first :: rest, other :: otherRest =>
    simp only [tokens, List.cons_append, List.append_assoc, List.cons.injEq, true_and] at same
    obtain ⟨rfl, later⟩ := tokens_append_inj same
    obtain ⟨rfl, rfl⟩ := elementTokens_append_inj later
    exact ⟨rfl, rfl⟩

theorem recordTokens_append_inj {members otherMembers : List (String × Json)}
    {after others : List Token}
    (same : (record members).tokens ++ after = (record otherMembers).tokens ++ others) :
    members = otherMembers ∧ after = others := by
  match members, otherMembers with
  | [], [] => simpa [tokens] using same
  | [], _ :: _ => simp [tokens] at same
  | _ :: _, [] => simp [tokens] at same
  | (key, value) :: rest, (otherKey, otherValue) :: otherRest =>
    simp only [tokens, List.cons_append, List.append_assoc, List.cons.injEq, true_and,
      Token.text.injEq] at same
    obtain ⟨rfl, sameValue⟩ := same
    obtain ⟨rfl, later⟩ := tokens_append_inj sameValue
    obtain ⟨rfl, rfl⟩ := memberTokens_append_inj later
    exact ⟨rfl, rfl⟩

theorem elementTokens_append_inj {elements otherElements : List Json} {after others : List Token}
    (same : elementTokens elements ++ .mark ']' :: after =
      elementTokens otherElements ++ .mark ']' :: others) :
    elements = otherElements ∧ after = others := by
  match elements, otherElements with
  | [], [] => simpa [elementTokens] using same
  | [], _ :: _ => simp [elementTokens] at same
  | _ :: _, [] => simp [elementTokens] at same
  | element :: rest, other :: otherRest =>
    simp only [elementTokens, List.cons_append, List.append_assoc, List.cons.injEq,
      true_and] at same
    obtain ⟨rfl, later⟩ := tokens_append_inj same
    obtain ⟨rfl, rfl⟩ := elementTokens_append_inj later
    exact ⟨rfl, rfl⟩

theorem memberTokens_append_inj {members otherMembers : List (String × Json)}
    {after others : List Token}
    (same : memberTokens members ++ .mark '}' :: after =
      memberTokens otherMembers ++ .mark '}' :: others) :
    members = otherMembers ∧ after = others := by
  match members, otherMembers with
  | [], [] => simpa [memberTokens] using same
  | [], _ :: _ => simp [memberTokens] at same
  | _ :: _, [] => simp [memberTokens] at same
  | (key, value) :: rest, (otherKey, otherValue) :: otherRest =>
    simp only [memberTokens, List.cons_append, List.append_assoc, List.cons.injEq, true_and,
      Token.text.injEq] at same
    obtain ⟨rfl, sameValue⟩ := same
    obtain ⟨rfl, later⟩ := tokens_append_inj sameValue
    obtain ⟨rfl, rfl⟩ := memberTokens_append_inj later
    exact ⟨rfl, rfl⟩

end

theorem tokens_injective : Function.Injective tokens := fun _ _ same =>
  (tokens_append_inj (congrArg (· ++ []) same)).1

/-! ### Texts that stand for values -/

/-- The text stands for the value. -/
def Denotes (text : String) (json : Json) : Prop := Spells text.toList json.tokens

theorem Denotes.unique {text : String} {json other : Json} (denotes : Denotes text json)
    (also : Denotes text other) : json = other :=
  tokens_injective (Spells.unique denotes also)

end Json

end FlowClients
