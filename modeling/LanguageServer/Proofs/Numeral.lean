/-
# Numerals are read back

The digits of a number denote it, and a numeral within the limit on its length is
read as the number it denotes. Digits are never trimmed, so a numeral comes out
of a padded value unchanged.
-/

import LanguageServer.Frame.Basic
import Mathlib.Algebra.Group.Int.Defs
import Mathlib.Algebra.Group.Nat.Defs
import Mathlib.Data.List.DropRight

namespace LanguageServer.Text

/-- Trimming the end of a text is dropping from its right. -/
theorem dropEndWhile_eq_rdropWhile {α : Type} (p : α → Bool) (text : List α) :
    dropEndWhile p text = text.rdropWhile p := rfl

/-- A digit is never trimmed. -/
theorem isBlank_of_isDigit {c : Char} (h : c.isDigit) : isBlank c = false := by
  have hrange : 48 ≤ c.toNat ∧ c.toNat ≤ 57 := Char.isDigit_iff_toNat.mp h
  simp only [isBlank, blanks, CharTable.contains, CodePoint.toNat_char]
  rw [if_neg (by omega), if_neg (by omega), if_pos (by omega)]
  simp
  omega

end LanguageServer.Text

namespace LanguageServer.Frame

/-- Trimming leaves digits as they are. -/
theorem trim_of_isDigit {numeral : List Char} (hne : numeral ≠ [])
    (h : ∀ c ∈ numeral, c.isDigit) : trim numeral = numeral := by
  obtain ⟨first, rest, rfl⟩ := List.exists_cons_of_ne_nil hne
  have hfirst : Text.isBlank first = false := Text.isBlank_of_isDigit (h first List.mem_cons_self)
  have hlast : Text.isBlank ((first :: rest).getLast hne) = false :=
    Text.isBlank_of_isDigit (h _ (List.getLast_mem hne))
  rw [trim, Text.trimWhile, List.dropWhile_cons_of_neg (by simp [hfirst]),
    Text.dropEndWhile_eq_rdropWhile, List.rdropWhile_eq_self_iff]
  intro _
  simp [hlast]

/-- A space in front is trimmed. -/
theorem trim_space_cons (text : List Char) : trim (' ' :: text) = trim text := by
  rw [trim, Text.trimWhile, List.dropWhile_cons_of_pos (by decide), ← Text.trimWhile, ← trim]

end LanguageServer.Frame

namespace LanguageServer.Decimal

/-- The digits of a number denote it. -/
theorem value_digits (n : Nat) : value (digits n) = n := by
  have hvalue : value (digits n) = Nat.ofDigitChars 10 (Nat.toDigits 10 n) 0 := by
    simp only [value, digits, digitValue, Nat.ofDigitChars, Nat.mul_comm]
  rw [hvalue, Nat.ofDigitChars_ten_toDigits]

theorem isDigit_of_mem_digits {n : Nat} {c : Char} (h : c ∈ digits n) : c.isDigit :=
  Nat.isDigit_of_mem_toDigits (by decide) (by decide) h

/-- Only zero is written with a zero in front, and then nothing follows it. -/
theorem digits_eq_of_head? {n : Nat} (h : (digits n).head? = some '0') : digits n = ['0'] := by
  induction n using Nat.strongRecOn with
  | _ n ih =>
      by_cases hsmall : n < 10
      · rw [digits, Nat.toDigits_of_lt_base hsmall, List.head?_cons, Option.some.injEq,
          Nat.digitChar_eq_zero] at h
        rw [h, digits, Nat.toDigits_zero]
      · have hlong : digits n = digits (n / 10) ++ [Nat.digitChar (n % 10)] :=
          Nat.toDigits_of_base_le (by decide) (by omega)
        have hne : digits (n / 10) ≠ [] := Nat.toDigits_ne_nil
        have hhead : (digits (n / 10)).head? = some '0' := by
          rwa [hlong, List.head?_append_of_ne_nil _ hne] at h
        have hzero : n / 10 = 0 := by
          rw [← value_digits (n / 10), ih (n / 10) (by omega) hhead]
          rfl
        omega

/-- A power of ten has one digit more than it has zeros. -/
theorem length_digits_pow (k : Nat) : (digits (10 ^ k)).length = k + 1 := by
  have hle : (digits (10 ^ k)).length ≤ k + 1 :=
    (Nat.length_toDigits_le_iff (by decide) (Nat.succ_pos k)).mpr
      (Nat.pow_lt_pow_right (by decide) (Nat.lt_succ_self k))
  have hpos : 0 < (digits (10 ^ k)).length := Nat.length_toDigits_pos
  have hlt : ¬(digits (10 ^ k)).length ≤ k := by
    intro hk
    have hbound : 10 ^ k < 10 ^ k :=
      (Nat.length_toDigits_le_iff (by decide) (by omega)).mp hk
    exact absurd hbound (Nat.lt_irrefl _)
  omega

/-- A number that is not greater than one within the limit is within the limit. -/
theorem length_digits_le_of_le {m n : Nat} (h : m ≤ n) (hn : (digits n).length ≤ digitLimit) :
    (digits m).length ≤ digitLimit :=
  (Nat.length_toDigits_le_iff (by decide) (by decide)).mpr
    (Nat.lt_of_le_of_lt h ((Nat.length_toDigits_le_iff (by decide) (by decide)).mp hn))

/-- A number of digits within the limit is read back. -/
theorem read_digits {n : Nat} (h : (digits n).length ≤ digitLimit) : read (digits n) = .ok n := by
  rw [read, if_neg (by omega), value_digits]

end LanguageServer.Decimal
