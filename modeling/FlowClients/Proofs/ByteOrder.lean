import FlowClients.Wire.Writer
import Mathlib.Data.String.Basic

/-!
The order of texts is the order of their bytes. A character with a greater number has a greater
encoding, and no encoding of a character is the beginning of another.
-/

namespace FlowClients.Wire

theorem utf8Bytes_eq (text : String) :
    utf8Bytes text = text.toList.flatMap String.utf8EncodeChar := by
  have encoded : text.toUTF8 = text.toList.utf8Encode := by
    rw [String.toUTF8_eq_toByteArray, ← String.toByteArray_ofList, String.ofList_toList]
  rw [utf8Bytes, encoded, List.utf8Encode, List.data_toByteArray]

/-! ### One character -/

/-- The byte that has the last six bits of a number and stands after the first of its character. -/
def laterByte (n : Nat) : UInt8 := .ofNat (n % 64 + 128)

theorem byte_lt_iff {n m : Nat} (small : n < 256) (also : m < 256) :
    UInt8.ofNat n < UInt8.ofNat m ↔ n < m := by
  rw [UInt8.lt_iff_toNat_lt, UInt8.toNat_ofNat_of_lt' small, UInt8.toNat_ofNat_of_lt' also]

theorem byte_eq_iff {n m : Nat} (small : n < 256) (also : m < 256) :
    UInt8.ofNat n = UInt8.ofNat m ↔ n = m := by
  rw [← UInt8.toNat_inj, UInt8.toNat_ofNat_of_lt' small, UInt8.toNat_ofNat_of_lt' also]

theorem laterByte_lt_iff {n m : Nat} : laterByte n < laterByte m ↔ n % 64 < m % 64 := by
  rw [laterByte, laterByte, byte_lt_iff (by omega) (by omega), Nat.add_lt_add_iff_right]

theorem laterByte_eq_iff {n m : Nat} : laterByte n = laterByte m ↔ n % 64 = m % 64 := by
  rw [laterByte, laterByte, byte_eq_iff (by omega) (by omega), Nat.add_right_cancel_iff]

theorem lt_iff_sixBits {n m : Nat} :
    n < m ↔ n / 64 < m / 64 ∨ n / 64 = m / 64 ∧ n % 64 < m % 64 := by
  omega

/-- The four lengths of an encoding. The first byte tells them apart. -/
theorem utf8EncodeChar_cases (c : Char) : ∃ n, c.val.toNat = n ∧
    (n < 128 ∧ String.utf8EncodeChar c = [.ofNat n] ∨
      128 ≤ n ∧ n < 2048 ∧ String.utf8EncodeChar c = [.ofNat (n / 64 + 192), laterByte n] ∨
      2048 ≤ n ∧ n < 65536 ∧ String.utf8EncodeChar c =
        [.ofNat (n / 64 / 64 + 224), laterByte (n / 64), laterByte n] ∨
      65536 ≤ n ∧ n < 1114112 ∧ String.utf8EncodeChar c =
        [.ofNat (n / 64 / 64 / 64 + 240), laterByte (n / 64 / 64), laterByte (n / 64),
          laterByte n]) := by
  have valid : c.val.toNat < 1114112 := by
    have held := c.valid
    simp only [UInt32.isValidChar, Nat.isValidChar] at held
    omega
  refine ⟨_, rfl, ?_⟩
  unfold String.utf8EncodeChar
  dsimp only
  simp only [Nat.div_div_eq_div_mul, laterByte]
  split
  · exact Or.inl ⟨by omega, rfl⟩
  split
  · refine Or.inr (Or.inl ⟨by omega, by omega, ?_⟩)
    rw [Nat.mod_eq_of_lt (by omega : c.val.toNat / 64 < 32)]
  split
  · refine Or.inr (Or.inr (Or.inl ⟨by omega, by omega, ?_⟩))
    rw [Nat.mod_eq_of_lt (by omega : c.val.toNat / 4096 < 16)]
  · refine Or.inr (Or.inr (Or.inr ⟨by omega, valid, ?_⟩))
    rw [Nat.mod_eq_of_lt (by omega : c.val.toNat / 262144 < 8)]

theorem utf8EncodeChar_append_lt {c d : Char} (under : c < d) (first second : List UInt8) :
    String.utf8EncodeChar c ++ first < String.utf8EncodeChar d ++ second := by
  obtain ⟨n, number, lower⟩ := utf8EncodeChar_cases c
  obtain ⟨m, otherNumber, upper⟩ := utf8EncodeChar_cases d
  have numbers : n < m := by
    rw [← number, ← otherNumber]
    exact under
  have ones := lt_iff_sixBits.mp numbers
  have twos := @lt_iff_sixBits (n / 64) (m / 64)
  have threes := @lt_iff_sixBits (n / 64 / 64) (m / 64 / 64)
  rcases lower with ⟨_, encoded⟩ | ⟨_, _, encoded⟩ | ⟨_, _, encoded⟩ | ⟨_, _, encoded⟩ <;>
  rcases upper with ⟨_, coded⟩ | ⟨_, _, coded⟩ | ⟨_, _, coded⟩ | ⟨_, _, coded⟩ <;>
  · rw [encoded, coded]
    simp (disch := omega) only [List.cons_append, List.nil_append, List.cons_lt_cons_iff,
      byte_lt_iff, byte_eq_iff, laterByte_lt_iff, laterByte_eq_iff]
    omega

/-! ### Texts -/

theorem append_lt_append_iff (front first second : List UInt8) :
    front ++ first < front ++ second ↔ first < second := by
  induction front with
  | nil => rfl
  | cons byte front ih =>
    rw [List.cons_append, List.cons_append, List.cons_lt_cons_self]
    exact ih

theorem flatMap_utf8EncodeChar_lt_iff {text other : List Char} :
    text.flatMap String.utf8EncodeChar < other.flatMap String.utf8EncodeChar ↔ text < other := by
  induction text generalizing other with
  | nil =>
    cases other with
    | nil => exact iff_of_false (List.lt_irrefl _) (List.lt_irrefl _)
    | cons d other =>
      have begun := List.exists_cons_of_ne_nil (String.utf8EncodeChar_ne_nil (c := d))
      obtain ⟨byte, bytes, encoded⟩ := begun
      rw [List.flatMap_nil, List.flatMap_cons, encoded]
      exact iff_of_true (List.nil_lt_cons _ _) (List.nil_lt_cons _ _)
  | cons c text ih =>
    cases other with
    | nil => exact iff_of_false (List.not_lt_nil _) (List.not_lt_nil _)
    | cons d other =>
      rw [List.flatMap_cons, List.flatMap_cons]
      rcases lt_trichotomy c d with below | rfl | above
      · exact iff_of_true (utf8EncodeChar_append_lt below _ _) (List.Lex.rel below)
      · rw [append_lt_append_iff, List.cons_lt_cons_self, ih]
      · have bytesAbove := utf8EncodeChar_append_lt above
          (other.flatMap String.utf8EncodeChar) (text.flatMap String.utf8EncodeChar)
        exact iff_of_false (List.lt_asymm bytesAbove) (List.lt_asymm (List.Lex.rel above))

/-- A text comes before another exactly if its bytes come before those of the other. -/
theorem utf8Bytes_lt_iff {text other : String} :
    utf8Bytes text < utf8Bytes other ↔ text < other := by
  rw [utf8Bytes_eq, utf8Bytes_eq, flatMap_utf8EncodeChar_lt_iff]
  rfl

end FlowClients.Wire
