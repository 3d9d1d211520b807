/-
# Where a string ends

A scan that remembers one thing, whether the character it has come to is escaped, finds the end
of a string. A character is escaped exactly if the run of backslashes directly before it, up to
the opening quote, has an odd length. So a string ends behind the first quote in front of which
this run is even, and with the line if there is no such quote
(`SemanticToken.string_ends_at_free_quote`).
-/

import LanguageServer.Proofs.TokenMeaning
import Mathlib.Algebra.Ring.Parity
import Mathlib.Data.List.DropRight

namespace LanguageServer.SemanticToken

open Text

/-- How many backslashes stand directly before a column, from a first column on. -/
def backslashesBefore (row : Line) (first column : Nat) : Nat :=
  ((slice row first column).rtakeWhile (· = .char '\\')).length

/-- A quote at a column that closes the string whose opening quote stands at an earlier one, if
none before it does: the run of backslashes directly before it has an even length. -/
structure Closes (row : Line) (start column : Nat) : Prop where
  behind : start < column
  quote : row[column]? = some (.char '"')
  even : Even (backslashesBefore row (start + 1) column)

instance (row : Line) (start column : Nat) : Decidable (Closes row start column) :=
  decidable_of_iff
    (start < column ∧ row[column]? = some (.char '"') ∧
      Even (backslashesBefore row (start + 1) column))
    ⟨fun ⟨hbehind, hquote, heven⟩ => ⟨hbehind, hquote, heven⟩,
      fun h => ⟨h.behind, h.quote, h.even⟩⟩

variable {row : Line} {start column : Nat}

theorem Closes.lt_length (h : Closes row start column) : column < row.length :=
  (List.getElem?_eq_some_iff.mp h.quote).1

theorem backslashesBefore_self (row : Line) (first : Nat) :
    backslashesBefore row first first = 0 := by
  rw [backslashesBefore, slice_self]
  rfl

theorem backslashesBefore_succ {first : Nat} {c : CodePoint} (hfirst : first ≤ column)
    (hc : row[column]? = some c) :
    backslashesBefore row first (column + 1) =
      if c = '\\' then backslashesBefore row first column + 1 else 0 := by
  rw [backslashesBefore, slice_succ hfirst hc, List.rtakeWhile_concat]
  simp only [decide_eq_true_eq]
  rw [apply_ite List.length, List.length_append]
  rfl

/-- The character at a column of a string is escaped. -/
def isEscaped (row : Line) (start column : Nat) : Bool :=
  decide (Odd (backslashesBefore row (start + 1) column))

/-- A character is escaped by a backslash before it that is not escaped itself. -/
theorem isEscaped_succ {c : CodePoint} (hbehind : start < column) (hc : row[column]? = some c) :
    isEscaped row start (column + 1) = (c = '\\' && !isEscaped row start column) := by
  rw [isEscaped, backslashesBefore_succ hbehind hc, isEscaped]
  by_cases hbackslash : c = '\\'
  · rw [if_pos hbackslash, decide_eq_true hbackslash, Bool.true_and, ← decide_not,
      decide_eq_decide]
    exact Nat.odd_add_one
  · rw [if_neg hbackslash, decide_eq_false hbackslash, Bool.false_and]
    rfl

theorem closes_iff (hbehind : start < column) :
    Closes row start column ↔
      row[column]? = some (.char '"') ∧ isEscaped row start column = false := by
  rw [isEscaped, decide_eq_false_iff_not, Nat.not_odd_iff_even]
  exact ⟨fun h => ⟨h.quote, h.even⟩, fun ⟨hquote, heven⟩ => ⟨hbehind, hquote, heven⟩⟩

/-- The scan of a string takes one character at a time. -/
theorem stringTail_cons (escaped : Bool) (c : CodePoint) (rest : Line) :
    stringTail escaped (c :: rest) =
      if c = '"' ∧ escaped = false then 1 else stringTail (c = '\\' && !escaped) rest + 1 := by
  rw [stringTail]
  cases escaped with
  | true => simp
  | false =>
      by_cases hbackslash : c = '\\'
      · simp [hbackslash]
      · simp [hbackslash]

/-- The column after a string, as the scan finds it from a column of the string on. -/
def stopFrom (row : Line) (start column : Nat) : Nat :=
  column + stringTail (isEscaped row start column) (row.drop column)

theorem stringStop_eq_stopFrom (row : Line) (start : Nat) :
    stringStop row start = stopFrom row start (start + 1) := by
  rw [stringStop, stopFrom, isEscaped, backslashesBefore_self]
  rfl

/-- The scan stops behind a quote that closes the string. -/
theorem stopFrom_of_closes (h : Closes row start column) :
    stopFrom row start column = column + 1 := by
  obtain ⟨hquote, hfree⟩ := (closes_iff h.behind).mp h
  rw [stopFrom, drop_of_getElem? hquote, stringTail_cons, if_pos ⟨rfl, hfree⟩]

/-- The scan goes on behind any other character, in the state that is right there. -/
theorem stopFrom_succ (hbehind : start < column) (hlength : column < row.length)
    (h : ¬Closes row start column) :
    stopFrom row start column = stopFrom row start (column + 1) := by
  obtain ⟨c, hc⟩ : ∃ c, row[column]? = some c := ⟨_, List.getElem?_eq_getElem hlength⟩
  have hopen : ¬(c = '"' ∧ isEscaped row start column = false) := by
    rintro ⟨rfl, hfree⟩
    exact h ((closes_iff hbehind).mpr ⟨hc, hfree⟩)
  rw [stopFrom, drop_of_getElem? hc, stringTail_cons, if_neg hopen, ← isEscaped_succ hbehind hc,
    stopFrom]
  omega

/-- The scan passes all columns at which nothing closes the string. -/
theorem stringStop_eq_stopFrom_of_open (hbehind : start < column) (hlength : column ≤ row.length)
    (hopen : ∀ earlier, earlier < column → ¬Closes row start earlier) :
    stringStop row start = stopFrom row start column := by
  -- The induction is on the column that the scan has come to; its state there is `isEscaped`.
  induction column, hbehind using Nat.le_induction with
  | base => exact stringStop_eq_stopFrom row start
  | succ column hbehind ih =>
      rw [ih (Nat.le_of_lt hlength) fun earlier hearlier =>
        hopen earlier (Nat.lt_succ_of_lt hearlier)]
      exact stopFrom_succ hbehind hlength (hopen column (Nat.lt_succ_self column))

theorem stopFrom_length (row : Line) (start : Nat) :
    stopFrom row start row.length = row.length := by
  rw [stopFrom, List.drop_length]
  rfl

/-- From an opening quote on, a line is read as a string up to where that ends, and then
further from there. -/
theorem lexLine_quote {number : Nat} {previous : Line} (h : row[start]? = some (.char '"')) :
    lexLine number start previous (row.drop start) =
      let later := lexLine number (stringStop row start) previous
        (row.drop (stringStop row start))
      (⟨number, start, stringStop row start - start, .string⟩ :: later.1, later.2) := by
  have hlength : stringStop row start - start =
      1 + stringTail false (row.drop (start + 1)) := by
    rw [stringStop]
    omega
  have hdrop : (row.drop (start + 1)).drop (stringTail false (row.drop (start + 1))) =
      row.drop (stringStop row start) := by rw [List.drop_drop, stringStop]
  rw [drop_of_getElem? h, lexLine_cons, lexeme_quote]
  dsimp only
  rw [hdrop, hlength]
  rfl

/-- A string ends behind the first quote that closes it, which is the first one with an even
number of backslashes directly before it, and with its line if no quote closes it. The tokens
behind it are read from there on. -/
theorem string_ends_at_free_quote (h : row[start]? = some (.char '"')) :
    (∀ column, Closes row start column →
      (∀ earlier, earlier < column → ¬Closes row start earlier) →
        stringStop row start = column + 1) ∧
    ((∀ column, ¬Closes row start column) → stringStop row start = row.length) ∧
    ∀ number previous, lexLine number start previous (row.drop start) =
      let later := lexLine number (stringStop row start) previous
        (row.drop (stringStop row start))
      (⟨number, start, stringStop row start - start, .string⟩ :: later.1, later.2) := by
  refine ⟨fun column hcloses hopen => ?_, fun hopen => ?_, fun number previous => lexLine_quote h⟩
  · rw [stringStop_eq_stopFrom_of_open hcloses.behind (Nat.le_of_lt hcloses.lt_length) hopen]
    exact stopFrom_of_closes hcloses
  · have hstart : start < row.length := (List.getElem?_eq_some_iff.mp h).1
    rw [stringStop_eq_stopFrom_of_open hstart (Nat.le_refl _) fun earlier _ => hopen earlier]
    exact stopFrom_length row start

/-- A quote behind three backslashes is passed, one behind two closes the string; and a string
whose last quote is escaped runs to the end of its line. -/
theorem strings_with_backslashes_end :
    let closed := Text.toList "x \"a\\\\\\\"b\\\\\" c\""
    let unclosed := Text.toList "\"a\\\""
    closed[2]? = some (.char '"') ∧ stringStop closed 2 = 12 ∧
      unclosed[0]? = some (.char '"') ∧ stringStop unclosed 0 = unclosed.length := by
  intro closed unclosed
  have hclosed : closed[2]? = some (.char '"') := by decide
  have hunclosed : unclosed[0]? = some (.char '"') := by decide
  have hopen : ∀ column, column < unclosed.length → ¬Closes unclosed 0 column := by decide
  refine ⟨hclosed, ?_, hunclosed, ?_⟩
  · exact (string_ends_at_free_quote hclosed).1 11 (by decide) (by decide)
  · exact (string_ends_at_free_quote hunclosed).2.1 fun column hcloses =>
      hopen column hcloses.lt_length hcloses

end LanguageServer.SemanticToken
