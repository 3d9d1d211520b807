/-
# Where tokens stand

A line is read lexeme by lexeme from its first column on. Each lexeme is a token, or one
character that no token starts with, and the next one starts where it ends. So the tokens of a
text come in order and do not overlap, each lies on its line, and a character between them is
none that a token starts with.
-/

import LanguageServer.Feature.SemanticToken
import LanguageServer.Proofs.Place
import Mathlib.Tactic.ByContra

namespace LanguageServer.SemanticToken

open Text

/-- A character that a token starts with. -/
def startsToken (c : CodePoint) : Bool :=
  c = '"' || isAsciiDigit c || isIdentifierStart c

theorem stringTail_le (escaped : Bool) (rest : Line) : stringTail escaped rest ≤ rest.length := by
  induction rest generalizing escaped with
  | nil => exact Nat.le_refl 0
  | cons c rest ih =>
      rw [stringTail, List.length_cons]
      split
      · exact Nat.succ_le_succ (ih false)
      · split
        · exact Nat.succ_le_succ (ih true)
        · split
          · exact Nat.succ_le_succ (Nat.zero_le _)
          · exact Nat.succ_le_succ (ih false)

section Lexeme

variable (previous : Line) {c : CodePoint} (rest : Line)

theorem lexeme_quote :
    lexeme previous '"' rest = ⟨some .string, stringTail false rest, previous⟩ := by
  rw [lexeme, if_pos rfl]

theorem ne_quote_of_isAsciiDigit (h : isAsciiDigit c = true) : c ≠ '"' := by
  rintro rfl
  cases h

theorem lexeme_digit (h : isAsciiDigit c = true) :
    lexeme previous c rest = ⟨some .number, (rest.takeWhile isAsciiDigit).length, previous⟩ := by
  rw [lexeme, if_neg (ne_quote_of_isAsciiDigit h), if_pos h]

theorem lexeme_word (hquote : c ≠ '"') (hdigit : isAsciiDigit c = false)
    (hstart : isIdentifierStart c = true) :
    lexeme previous c rest = ⟨some (wordKind previous (c :: leadingWord rest)),
      (leadingWord rest).length, c :: leadingWord rest⟩ := by
  rw [lexeme, if_neg hquote, if_neg (Bool.eq_false_iff.mp hdigit), if_pos hstart]

/-- A character that no token starts with is a lexeme of its own. -/
theorem lexeme_other (h : startsToken c = false) :
    lexeme previous c rest = ⟨none, 0, previous⟩ := by
  simp only [startsToken, Bool.or_eq_false_iff, decide_eq_false_iff_not] at h
  obtain ⟨⟨hquote, hdigit⟩, hstart⟩ := h
  rw [lexeme, if_neg hquote, if_neg (Bool.eq_false_iff.mp hdigit),
    if_neg (Bool.eq_false_iff.mp hstart)]

/-- A token starts with a quote, a digit or a character that an identifier starts with. -/
theorem startsToken_cases (h : startsToken c = true) :
    c = '"' ∨ isAsciiDigit c = true ∨
      c ≠ '"' ∧ isAsciiDigit c = false ∧ isIdentifierStart c = true := by
  by_cases hquote : c = '"'
  · exact Or.inl hquote
  · cases hdigit : isAsciiDigit c with
    | true => exact Or.inr (Or.inl rfl)
    | false => exact Or.inr (Or.inr ⟨hquote, rfl, by simpa [startsToken, hquote, hdigit] using h⟩)

theorem exists_kind_lexeme (h : startsToken c = true) :
    ∃ kind, (lexeme previous c rest).kind = some kind := by
  rcases startsToken_cases h with rfl | hdigit | ⟨hquote, hdigit, hstart⟩
  · exact ⟨_, congrArg Lexeme.kind (lexeme_quote previous rest)⟩
  · exact ⟨_, congrArg Lexeme.kind (lexeme_digit previous rest hdigit)⟩
  · exact ⟨_, congrArg Lexeme.kind (lexeme_word previous rest hquote hdigit hstart)⟩

theorem lexeme_of_kind_eq_none (h : (lexeme previous c rest).kind = none) :
    lexeme previous c rest = ⟨none, 0, previous⟩ := by
  refine lexeme_other _ _ (eq_false_of_ne_true fun hstarts => ?_)
  obtain ⟨kind, hkind⟩ := exists_kind_lexeme previous rest hstarts
  rw [hkind] at h
  cases h

/-- Only a lexeme that is a token starts as one. -/
theorem startsToken_of_kind_lexeme {kind : TokenKind}
    (h : (lexeme previous c rest).kind = some kind) : startsToken c = true := by
  by_contra hother
  rw [lexeme_other _ _ (eq_false_of_ne_true hother)] at h
  cases h

/-- A lexeme ends on its line. -/
theorem used_lexeme_le (c : CodePoint) : (lexeme previous c rest).used ≤ rest.length := by
  cases h : startsToken c with
  | false =>
      rw [lexeme_other _ _ h]
      exact Nat.zero_le _
  | true =>
      rcases startsToken_cases h with rfl | hdigit | ⟨hquote, hdigit, hstart⟩
      · rw [lexeme_quote]
        exact stringTail_le false rest
      · rw [lexeme_digit _ _ hdigit]
        exact (List.takeWhile_prefix isAsciiDigit).length_le
      · rw [lexeme_word _ _ hquote hdigit hstart]
        exact (List.takeWhile_prefix isWordChar).length_le

end Lexeme

/-- A token is over when another one starts. -/
def Precedes (a b : SemanticToken) : Prop :=
  a.line < b.line ∨ a.line = b.line ∧ a.start + a.length ≤ b.start

/-- The place where a token starts. -/
def position (token : SemanticToken) : Position :=
  ⟨token.line, token.start⟩

/-- A token covers a column of a line. -/
def Covers (token : SemanticToken) (number column : Nat) : Prop :=
  token.line = number ∧ token.start ≤ column ∧ column < token.start + token.length

/-- A token takes up some columns of a line from a first one on, up to one that it ends at. -/
structure Within (token : SemanticToken) (number first last : Nat) : Prop where
  line : token.line = number
  start : first ≤ token.start
  length : 0 < token.length
  stop : token.start + token.length ≤ last

section Line

variable {number column : Nat} {previous line : Line} {token : SemanticToken}

theorem mem_lexLine_cons {c : CodePoint} {rest : Line} :
    token ∈ (lexLine number column previous (c :: rest)).1 ↔
      (∃ kind, (lexeme previous c rest).kind = some kind ∧
        token = ⟨number, column, 1 + (lexeme previous c rest).used, kind⟩) ∨
      token ∈ (lexLine number (column + 1 + (lexeme previous c rest).used)
        (lexeme previous c rest).word (rest.drop (lexeme previous c rest).used)).1 := by
  rw [lexLine_cons, List.mem_append, Option.mem_toList, Option.map_eq_some_iff]
  simp only [eq_comm]

theorem within_of_mem_lexLine (h : token ∈ (lexLine number column previous line).1) :
    token.Within number column (column + line.length) := by
  induction column, previous, line using lexLine_induction with
  | nil column previous =>
      rw [lexLine] at h
      cases h
  | cons column previous c rest ih =>
      have hused := used_lexeme_le previous rest c
      rcases mem_lexLine_cons.mp h with ⟨kind, -, rfl⟩ | hlater
      · exact ⟨rfl, Nat.le_refl _, by simp only; omega, by simp only [List.length_cons]; omega⟩
      · obtain ⟨hline, hstart, hlength, hstop⟩ := ih hlater
        rw [List.length_drop] at hstop
        exact ⟨hline, by omega, hlength, by rw [List.length_cons]; omega⟩

/-- The tokens of a line are in order and do not overlap. -/
theorem pairwise_lexLine (number column : Nat) (previous line : Line) :
    (lexLine number column previous line).1.Pairwise Precedes := by
  induction column, previous, line using lexLine_induction with
  | nil column previous =>
      rw [lexLine]
      exact List.Pairwise.nil
  | cons column previous c rest ih =>
      rw [lexLine_cons]
      dsimp only
      cases (lexeme previous c rest).kind with
      | none => exact ih
      | some kind =>
          refine List.pairwise_cons.mpr ⟨fun token htoken => ?_, ih⟩
          obtain ⟨hline, hstart, -, -⟩ := within_of_mem_lexLine htoken
          exact Or.inr ⟨hline.symm, by simp only; omega⟩

/-- A character of a line that a token starts with is covered by a token. -/
theorem exists_covers_lexLine (number column : Nat) (previous : Line) {row : Line} {offset : Nat}
    {c : CodePoint} (hc : row[offset]? = some c) (hstarts : startsToken c = true) :
    ∃ token ∈ (lexLine number column previous row).1, token.Covers number (column + offset) := by
  induction column, previous, row using lexLine_induction generalizing offset with
  | nil column previous => cases hc
  | cons column previous first rest ih =>
      by_cases hlexeme : offset < 1 + (lexeme previous first rest).used
      · -- The first lexeme takes the character. It is a token, as a single character without
        -- one would have to be this character.
        have hfirst : startsToken first = true := by
          by_contra hnone
          rw [lexeme_other _ _ (eq_false_of_ne_true hnone)] at hlexeme
          obtain rfl : offset = 0 := by simpa using hlexeme
          cases hc
          exact hnone hstarts
        obtain ⟨kind, hkind⟩ := exists_kind_lexeme previous rest hfirst
        refine ⟨_, mem_lexLine_cons.mpr (Or.inl ⟨kind, hkind, rfl⟩), rfl, ?_, ?_⟩
        · exact Nat.le_add_right ..
        · exact Nat.add_lt_add_left hlexeme column
      · obtain ⟨offset, rfl⟩ := Nat.exists_eq_add_of_le (Nat.le_of_not_lt hlexeme)
        have hc : (rest.drop (lexeme previous first rest).used)[offset]? = some c := by
          rw [List.getElem?_drop, ← hc, Nat.add_assoc, Nat.add_comm 1, List.getElem?_cons_succ]
        obtain ⟨token, htoken, hcovers⟩ := ih hc
        rw [Nat.add_assoc, Nat.add_assoc, ← Nat.add_assoc 1] at hcovers
        exact ⟨token, mem_lexLine_cons.mpr (Or.inr htoken), hcovers⟩

end Line

/-- The latest word in front of the line of a number. -/
def wordBefore (lines : List Line) : Nat → Line
  | 0 => []
  | number + 1 =>
      match lines[number]? with
      | none => wordBefore lines number
      | some line => (lexLine number 0 (wordBefore lines number) line).2

theorem wordBefore_succ {lines : List Line} {number : Nat} {line : Line}
    (h : lines[number]? = some line) :
    wordBefore lines (number + 1) = (lexLine number 0 (wordBefore lines number) line).2 := by
  rw [wordBefore, h]

/-- The tokens of some lines are the ones on each of them, which is read with the latest word
in front of it. -/
theorem lexLines_wordBefore {lines rest : List Line} {number : Nat} (h : lines.drop number = rest) :
    lexLines number (wordBefore lines number) rest =
      (rest.zipIdx number).flatMap fun (line, number) =>
        (lexLine number 0 (wordBefore lines number) line).1 := by
  induction rest generalizing number with
  | nil => rfl
  | cons line rest ih =>
      have hline := getElem?_of_drop h
      simp only [lexLines, List.zipIdx_cons, List.flatMap_cons]
      rw [← wordBefore_succ hline, ih (drop_succ_of_drop h)]

theorem lex_eq_flatMap (text : Text) :
    lex text = (lines text).zipIdx.flatMap fun (line, number) =>
      (lexLine number 0 (wordBefore (lines text) number) line).1 :=
  lexLines_wordBefore List.drop_zero

section Text

variable {text : Text} {token : SemanticToken}

theorem mem_lex_iff :
    token ∈ lex text ↔ ∃ number line, (lines text)[number]? = some line ∧
      token ∈ (lexLine number 0 (wordBefore (lines text) number) line).1 := by
  rw [lex_eq_flatMap]
  exact mem_zipIdx_flatMap_iff (f := fun line number =>
    (lexLine number 0 (wordBefore (lines text) number) line).1)

/-- A token has at least one character, and lies on a line of the text. -/
theorem inside_of_mem_lex (h : token ∈ lex text) :
    0 < token.length ∧ ∃ line, (lines text)[token.line]? = some line ∧
      token.start + token.length ≤ line.length := by
  obtain ⟨number, line, hline, hmem⟩ := mem_lex_iff.mp h
  obtain ⟨rfl, -, hlength, hstop⟩ := within_of_mem_lexLine hmem
  rw [Nat.zero_add] at hstop
  exact ⟨hlength, line, hline, hstop⟩

/-- The tokens of a text are in order and do not overlap. -/
theorem pairwise_lex (text : Text) : (lex text).Pairwise Precedes := by
  rw [lex_eq_flatMap, List.pairwise_flatMap]
  refine ⟨fun entry _ => pairwise_lexLine .., ?_⟩
  refine (pairwise_zipIdx _).imp fun hlt a ha b hb => ?_
  rw [← (within_of_mem_lexLine ha).line, ← (within_of_mem_lexLine hb).line] at hlt
  exact Or.inl hlt

/-- The tokens of a text come in the order of their places. -/
theorem pairwise_before_lex (text : Text) :
    (lex text).Pairwise fun a b => a.position.before b.position = true := by
  refine (pairwise_lex text).imp_of_mem fun {a b} ha _ hprecedes => ?_
  have hlength := (inside_of_mem_lex ha).1
  simp only [Precedes] at hprecedes
  simp only [Position.before_iff, position]
  omega

/-- A character that a token starts with is covered by a token. -/
theorem exists_covers {number column : Nat} {row : Line} {c : CodePoint}
    (hline : (lines text)[number]? = some row) (hc : row[column]? = some c)
    (hstarts : startsToken c = true) : ∃ token ∈ lex text, token.Covers number column := by
  obtain ⟨token, htoken, hcovers⟩ :=
    exists_covers_lexLine number 0 (wordBefore (lines text) number) hc hstarts
  rw [Nat.zero_add] at hcovers
  exact ⟨token, mem_lex_iff.mpr ⟨number, row, hline, htoken⟩, hcovers⟩

end Text

end LanguageServer.SemanticToken
