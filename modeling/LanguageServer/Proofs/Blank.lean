/-
# Blanks at the start of a line

Blanks are no letters and have no case, so a line has the same words, the same braces
and the same letters in lower case whether it is indented or not.
-/

import LanguageServer.Document.Word
import LanguageServer.Text.Blank
import LanguageServer.Text.Case
import Mathlib.Data.List.TakeWhile
import Mathlib.Tactic.ByContra

namespace LanguageServer.Text

namespace CharTable

/-- A code point that is found lies in one of the ranges. -/
theorem exists_mem_of_contains {table : CharTable} {code : Nat} (h : table.contains code = true) :
    ∃ range ∈ table, range.1 ≤ code ∧ code ≤ range.2 := by
  induction table with
  | nil => cases h
  | cons range rest ih =>
      obtain ⟨first, last⟩ := range
      rw [contains] at h
      split at h
      · next hlast => exact ⟨(first, last), List.mem_cons_self, of_decide_eq_true h, hlast⟩
      · obtain ⟨range, hmem, hrange⟩ := ih h
        exact ⟨range, List.mem_cons_of_mem _ hmem, hrange⟩

/-- Whether each range of a table ends before each range of another one or starts
behind it. -/
def apart (table other : CharTable) : Bool :=
  table.all fun a => other.all fun b => a.2 < b.1 || b.2 < a.1

/-- Tables that are apart have no code point in common. -/
theorem contains_eq_false_of_apart {table other : CharTable} (happart : apart table other = true)
    {code : Nat} (h : table.contains code = true) : other.contains code = false := by
  by_contra hother
  obtain ⟨a, ha, hfirst, hlast⟩ := exists_mem_of_contains h
  obtain ⟨b, hb, hfirst', hlast'⟩ := exists_mem_of_contains (eq_true_of_ne_false hother)
  have hab := List.all_eq_true.mp (List.all_eq_true.mp happart a ha) b hb
  simp only [Bool.or_eq_true, decide_eq_true_eq] at hab
  omega

end CharTable

variable {c : CodePoint}

theorem isLetter_of_isBlank (h : isBlank c = true) : isLetter c = false :=
  CharTable.contains_eq_false_of_apart (by decide +kernel) h

theorem isCaseIgnorable_of_isBlank (h : isBlank c = true) : isCaseIgnorable c = false :=
  CharTable.contains_eq_false_of_apart (by decide +kernel) h

theorem isCased_of_isBlank (h : isBlank c = true) : isCased c = false :=
  CharTable.contains_eq_false_of_apart (by decide +kernel) h

theorem isAsciiDigit_of_isBlank (h : isBlank c = true) : isAsciiDigit c = false := by
  have hcode : CharTable.contains [(0x30, 0x39)] c.toNat = false :=
    CharTable.contains_eq_false_of_apart (by decide) h
  rw [isAsciiDigit, decide_eq_false_iff_not]
  rintro ⟨hfirst, hlast⟩
  have hlow : 0x30 ≤ c.toNat := hfirst
  have hhigh : c.toNat ≤ 0x39 := hlast
  simp [CharTable.contains, hlow, hhigh] at hcode

/-- A character that is no blank is none of the blanks. -/
theorem ne_of_isBlank (h : isBlank c = true) {other : CodePoint} (hother : isBlank other = false) :
    c ≠ other := by
  rintro rfl
  rw [h] at hother
  cases hother

/-- A code point outside of the runs of capitals has no small form. -/
theorem smallCode_of_not_contains {runs : List (Nat × Nat × Nat × Int)} {code : Nat}
    (h : CharTable.contains (runs.map fun run => (run.1, run.2.1)) code = false) :
    smallCode runs code = code := by
  induction runs with
  | nil => rfl
  | cons run rest ih =>
      obtain ⟨first, last, step, shift⟩ := run
      rw [List.map_cons, CharTable.contains] at h
      rw [smallCode]
      split
      · next hlast =>
          rw [if_pos hlast] at h
          rw [if_neg fun hrun => of_decide_eq_false h hrun.1]
      · next hlast =>
          rw [if_neg hlast] at h
          exact ih h

theorem lowerChar_of_isBlank (h : isBlank c = true) : lowerChar c = [c] := by
  have hruns : CharTable.contains (capitalRuns.map fun run => (run.1, run.2.1)) c.toNat = false :=
    CharTable.contains_eq_false_of_apart (by decide +kernel) h
  rw [lowerChar, if_neg (ne_of_isBlank h (by decide)), smallCode_of_not_contains hruns,
    CodePoint.ofNat_toNat]

/-- Blanks before a text stay as they are and do not change its lower case. -/
theorem lower_blanks_append {blanks : List CodePoint} (h : ∀ c ∈ blanks, isBlank c = true)
    (text : List CodePoint) : lower (blanks ++ text) = blanks ++ lower text := by
  rw [lower, lower]
  induction blanks with
  | nil => rfl
  | cons c rest ih =>
      have hc := h c List.mem_cons_self
      rw [List.cons_append, lowerAfter, if_neg (ne_of_isBlank hc (by decide)),
        lowerChar_of_isBlank hc, isCaseIgnorable_of_isBlank hc, isCased_of_isBlank hc]
      exact congrArg (c :: ·) (ih fun other hother => h other (List.mem_cons_of_mem _ hother))

/-- A word does not start at a character that is not its first one. -/
theorem contains_blanks_append {first : CodePoint} {word blanks : List CodePoint}
    (hfirst : isBlank first = false) (h : ∀ c ∈ blanks, isBlank c = true) (text : List CodePoint) :
    contains (first :: word) (blanks ++ text) = contains (first :: word) text := by
  induction blanks with
  | nil => rfl
  | cons c rest ih =>
      have hne : (first == c) = false :=
        beq_false_of_ne (ne_of_isBlank (h c List.mem_cons_self) hfirst).symm
      rw [← ih fun other hother => h other (List.mem_cons_of_mem _ hother), contains, contains,
        List.cons_append, find?, List.isPrefixOf_cons_cons, hne, Bool.false_and,
        if_neg Bool.false_ne_true, Option.isSome_map]

/-- The blanks that a line starts with. -/
def leadingBlanks (line : Line) : Line :=
  line.takeWhile isBlank

theorem isBlank_of_mem_leadingBlanks {line : Line} (h : c ∈ leadingBlanks line) :
    isBlank c = true :=
  List.mem_takeWhile_imp h

theorem leadingBlanks_append_trimStart (line : Line) :
    leadingBlanks line ++ trimStart line = line :=
  List.takeWhile_append_dropWhile

/-- A character other than the blanks is on a line if it is behind the blanks. -/
theorem contains_trimStart {brace : CodePoint} (hbrace : isBlank brace = false) (line : Line) :
    (trimStart line).contains brace = line.contains brace := by
  have hblanks : (leadingBlanks line).contains brace = false := by
    rw [List.contains_eq_mem, decide_eq_false_iff_not]
    exact fun hmem => ne_of_isBlank (isBlank_of_mem_leadingBlanks hmem) hbrace rfl
  calc
    (trimStart line).contains brace =
        (leadingBlanks line ++ trimStart line).contains brace := by
      rw [List.contains_append, hblanks, Bool.false_or]
    _ = line.contains brace := by rw [leadingBlanks_append_trimStart]

end LanguageServer.Text
