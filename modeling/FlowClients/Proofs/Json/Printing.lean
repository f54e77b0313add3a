import FlowClients.Proofs.Json.Grammar

/-!
Printed values. Whatever characters its texts have and however deep it is nested, a value that is
printed is spelled by its text.
-/

namespace FlowClients

namespace Json

variable {chars value rest : List Char} {others : List Token}

/-! ### Texts between quotes -/

/-- The two digits of a control character are read back. -/
theorem unit?_hexDigits {n : Nat} (control : n < 0x20) :
    unit? '0' '0' (hexDigit (n / 16)) (hexDigit (n % 16)) = some n := by
  revert n
  decide

theorem SpellsText.escapeChar_append (c : Char) (spells : SpellsText chars value rest) :
    SpellsText (escapeChar c ++ chars) (c :: value) rest := by
  have numbered : ∀ n, c.toNat = n → c = Char.ofNat n := by
    rintro n rfl
    exact c.ofNat_toNat.symm
  have byLetter : ∀ letter, (letter, c) ∈ letters →
      SpellsText ('\\' :: letter :: chars) (c :: value) rest :=
    fun letter listed => .escape (.letter listed) spells
  unfold escapeChar
  split_ifs with quote backslash backspace formFeed lineFeed carriageReturn tab control
  · exact byLetter _ (by simp [quote, letters])
  · exact byLetter _ (by simp [backslash, letters])
  · exact byLetter _ (by simp [numbered 8 backspace, letters])
  · exact byLetter _ (by simp [numbered 12 formFeed, letters])
  · exact byLetter _ (by simp [lineFeed, letters])
  · exact byLetter _ (by simp [carriageReturn, letters])
  · exact byLetter _ (by simp [tab, letters])
  · have escapes : Escapes _ (Char.ofNat c.toNat) chars := .unit (unit?_hexDigits control) c.valid
    rw [Char.ofNat_toNat] at escapes
    exact .escape escapes spells
  · exact .plain quote backslash (Nat.not_lt.mp control) spells

theorem spellsText_escaped (value rest : List Char) :
    SpellsText (value.flatMap escapeChar ++ '"' :: rest) value rest := by
  induction value with
  | nil => exact .close
  | cons c value ih =>
    rw [List.flatMap_cons, List.append_assoc]
    exact ih.escapeChar_append c

/-! ### Tokens -/

theorem Spells.quote_append (text : String) (spells : Spells chars others) :
    Spells (quote text ++ chars) (.text text :: others) := by
  have read := Begins.text (spellsText_escaped text.toList chars)
  rw [String.ofList_toList] at read
  simpa [quote] using Spells.token read spells

theorem Spells.newline_append (depth : Nat) (spells : Spells chars others) :
    Spells (newline depth ++ chars) others := by
  have blanks : ∀ n, Spells (List.replicate n ' ' ++ chars) others := by
    intro n
    induction n with
    | zero => exact spells
    | succ n ih => exact .gap (by decide) ih
  exact .gap (by decide) (blanks _)

theorem Spells.mark_append {c : Char} (isMark : c ∈ marks) (spells : Spells chars others) :
    Spells (c :: chars) (.mark c :: others) :=
  .token (.mark isMark) spells

/-- A key, its colon and a blank. -/
theorem Spells.key_append (key : String) (spells : Spells chars others) :
    Spells (quote key ++ ([':', ' '] ++ chars)) (.text key :: .mark ':' :: others) :=
  .quote_append key (.mark_append (by decide) (.gap (by decide) spells))

/-! ### Values -/

mutual

/-- Text that is printed in front of other tokens puts the tokens of the value in front of them. -/
theorem Spells.print_append (depth : Nat) (json : Json) {chars : List Char} {others : List Token}
    (spells : Spells chars others) :
    Spells (print depth json ++ chars) (json.tokens ++ others) := by
  match json with
  | .text value =>
    rw [print, tokens]
    exact spells.quote_append value
  | .truth true =>
    rw [tokens]
    exact .token .yes spells
  | .truth false =>
    rw [tokens]
    exact .token .no spells
  | .array [] =>
    rw [print, tokens]
    exact .mark_append (by decide) (.mark_append (by decide) spells)
  | .array (first :: rest) =>
    -- from the end to the beginning, as each piece is put in front of what follows it
    have closed := Spells.newline_append depth (.mark_append (by decide : ']' ∈ marks) spells)
    have elements := closed.printElements_append (depth + 1) rest
    have begun := (elements.print_append (depth + 1) first).newline_append (depth + 1)
    have opened := Spells.mark_append (by decide : '[' ∈ marks) begun
    simpa [print, tokens] using opened
  | .record [] =>
    rw [print, tokens]
    exact .mark_append (by decide) (.mark_append (by decide) spells)
  | .record ((key, value) :: rest) =>
    have closed := Spells.newline_append depth (.mark_append (by decide : '}' ∈ marks) spells)
    have members := closed.printMembers_append (depth + 1) rest
    have keyed := (members.print_append (depth + 1) value).key_append key
    have begun := keyed.newline_append (depth + 1)
    have opened := Spells.mark_append (by decide : '{' ∈ marks) begun
    simpa [print, tokens] using opened

theorem Spells.printElements_append (depth : Nat) (elements : List Json) {chars : List Char}
    {others : List Token} (spells : Spells chars others) :
    Spells (printElements depth elements ++ chars) (elementTokens elements ++ others) := by
  match elements with
  | [] =>
    rw [printElements, elementTokens]
    exact spells
  | element :: rest =>
    have later := spells.printElements_append depth rest
    have begun := (later.print_append depth element).newline_append depth
    have separated := Spells.mark_append (by decide : ',' ∈ marks) begun
    simpa [printElements, elementTokens] using separated

theorem Spells.printMembers_append (depth : Nat) (members : List (String × Json))
    {chars : List Char} {others : List Token} (spells : Spells chars others) :
    Spells (printMembers depth members ++ chars) (memberTokens members ++ others) := by
  match members with
  | [] =>
    rw [printMembers, memberTokens]
    exact spells
  | (key, value) :: rest =>
    have later := spells.printMembers_append depth rest
    have keyed := (later.print_append depth value).key_append key
    have begun := keyed.newline_append depth
    have separated := Spells.mark_append (by decide : ',' ∈ marks) begun
    simpa [printMembers, memberTokens] using separated

end

theorem denotes_pretty (json : Json) : Denotes json.pretty json := by
  have whole := Spells.done.print_append 0 json
  rw [List.append_nil, List.append_nil] at whole
  rwa [Denotes, pretty, String.toList_ofList]

end Json

end FlowClients
