
/-!
White space in the sense of the Unicode property `White_Space`, and removing it from the ends of a
text. Texts are lists of characters here; `isBlank` holds of exactly 25 characters.
-/

namespace FlowClients.Text

/-- Tabulation and line controls, the spaces of fixed and of free width, and the two separators. -/
def isBlank (c : Char) : Bool :=
  let n := c.toNat
  (9 ≤ n && n ≤ 13) || n == 0x20 || n == 0x85 || n == 0xA0 || n == 0x1680 ||
    (0x2000 ≤ n && n ≤ 0x200A) || n == 0x2028 || n == 0x2029 || n == 0x202F || n == 0x205F ||
    n == 0x3000

theorem isBlank_of_isWhitespace {c : Char} (white : c.isWhitespace = true) : isBlank c = true := by
  simp only [Char.isWhitespace, Bool.or_eq_true, decide_eq_true_eq] at white
  rcases white with ((rfl | rfl) | rfl) | rfl <;> decide

/-- Leave out the white space at the end. -/
def trimRight (cs : List Char) : List Char := (cs.reverse.dropWhile isBlank).reverse

/-- Leave out the white space at both ends. -/
def trim (cs : List Char) : List Char := trimRight (cs.dropWhile isBlank)

end FlowClients.Text
