/-
# Indentation has no meaning

A text and the same text with its lines indented anew have the same tokens, the same
blocks to fold and the same warnings (`Indentation.reindent_keeps_meaning`). The three
look at a line without regard to the blanks it starts with, and blank lines at the end,
which the indented text may have fewer of, add nothing to any of them.
-/

import LanguageServer.Feature.Diagnostic
import LanguageServer.Feature.Folding
import LanguageServer.Feature.Indentation
import LanguageServer.Feature.SemanticToken
import LanguageServer.Proofs.Blank
import LanguageServer.Proofs.Column
import LanguageServer.Proofs.Lexing
import LanguageServer.Proofs.Lines
import Mathlib.Data.List.DropRight
import Mathlib.Data.List.Forall2

namespace LanguageServer

open Text

namespace Indentation

/-- Lines with other blanks at their starts, and possibly without some blank lines at
the end. -/
inductive Reindented : List Line → List Line → Prop
  | nil : Reindented [] []
  | line {line line' : Line} {rest rest' : List Line} (same : trimStart line' = trimStart line)
      (later : Reindented rest rest') : Reindented (line :: rest) (line' :: rest')
  | blank {line : Line} {rest : List Line} (blank : trimStart line = [])
      (later : Reindented rest []) : Reindented (line :: rest) []

theorem trimStart_trimStart (line : Line) : trimStart (trimStart line) = trimStart line :=
  List.dropWhile_idempotent isBlank line

theorem trimStart_atLevel (level : Nat) (line : Line) :
    trimStart (atLevel level line) = trimStart line := by
  rw [atLevel, trimStart, List.dropWhile_append_of_pos]
  · exact trimStart_trimStart line
  · intro c hc
    rw [List.eq_of_mem_replicate hc]
    decide

/-- Only a line with something on it opens or closes a block. -/
theorem ne_nil_of_marks {marks : Line → Bool} (hempty : marks [] = false) {line : Line}
    (h : marks line = true) : line ≠ [] := by
  rintro rfl
  rw [hempty] at h
  cases h

theorem reindented_fromLevel (level : Nat) (lines : List Line) :
    Reindented lines (fromLevel level lines) := by
  induction lines generalizing level with
  | nil => exact .nil
  | cons line rest ih =>
      rw [fromLevel]
      split
      · exact .line rfl (ih level)
      · split
        · exact .line (trimStart_atLevel level line) (ih (level + 1))
        · split
          · exact .line (trimStart_atLevel (level - 1) line) (ih (level - 1))
          · exact .line (trimStart_atLevel level line) (ih level)

theorem Reindented.dropEmptyLast {lines lines' : List Line} (h : Reindented lines lines') :
    Reindented lines (dropEmptyLast lines') := by
  rw [Text.dropEmptyLast]
  split
  · next hlast =>
      induction h with
      | nil => cases hlast
      | blank hblank later => cases hlast
      | @line line line' rest rest' same later ih =>
          cases rest' with
          | nil =>
              rw [List.getLast?_singleton, Option.some.injEq] at hlast
              rw [hlast] at same
              exact .blank same.symm later
          | cons next more =>
              rw [List.getLast?_cons_cons] at hlast
              exact .line same (ih hlast)
  · exact h

/-- Indenting adds blanks only. -/
theorem mem_of_mem_fromLevel {level : Nat} {lines : List Line} {line : Line} {c : CodePoint}
    (hline : line ∈ fromLevel level lines) (hc : c ∈ line) :
    c = ' ' ∨ ∃ other ∈ lines, c ∈ other := by
  induction lines generalizing level with
  | nil => cases hline
  | cons first rest ih =>
      have hhere {level' : Nat} (hmem : c ∈ atLevel level' first) :
          c = ' ' ∨ ∃ other ∈ first :: rest, c ∈ other := by
        rcases List.mem_append.mp hmem with hblank | hrest
        · exact Or.inl (List.eq_of_mem_replicate hblank)
        · exact Or.inr ⟨first, List.mem_cons_self, (List.dropWhile_sublist _).mem hrest⟩
      have hlater {level' : Nat} (hmem : line ∈ fromLevel level' rest) :
          c = ' ' ∨ ∃ other ∈ first :: rest, c ∈ other := by
        rcases ih hmem with hblank | ⟨other, hother, hc⟩
        · exact Or.inl hblank
        · exact Or.inr ⟨other, List.mem_cons_of_mem _ hother, hc⟩
      rw [fromLevel] at hline
      split at hline
      · rcases List.mem_cons.mp hline with rfl | hmem
        · exact Or.inr ⟨line, List.mem_cons_self, hc⟩
        · exact hlater hmem
      · split at hline
        · rcases List.mem_cons.mp hline with rfl | hmem
          · exact hhere hc
          · exact hlater hmem
        · split at hline <;> rcases List.mem_cons.mp hline with rfl | hmem
          · exact hhere hc
          · exact hlater hmem
          · exact hhere hc
          · exact hlater hmem

/-- What is on an indented line is a blank or on a line of the text. -/
theorem mem_text_of_mem_fromLevel {text : Text} {level : Nat} {line : Line} {c : CodePoint}
    (hline : line ∈ fromLevel level (lines text)) (hc : c ∈ line) :
    c = ' ' ∨ c ∈ text.toList ∧ c ≠ '\n' := by
  rcases mem_of_mem_fromLevel hline hc with hblank | ⟨other, hother, hc⟩
  · exact Or.inl hblank
  · exact Or.inr (mem_of_mem_lines hother hc)

/-- Indenting brings no line feeds in. -/
theorem feed_not_mem_fromLevel {text : Text} {level : Nat} {line : Line}
    (hline : line ∈ fromLevel level (lines text)) : .char '\n' ∉ line := by
  intro hfeed
  rcases mem_text_of_mem_fromLevel hline hfeed with hblank | ⟨-, hne⟩
  · cases hblank
  · exact hne rfl

/-- There are no line ends on the lines of a text without returns, and indenting brings none
in. -/
theorem plain_of_mem_fromLevel {text : Text} (h : .char '\r' ∉ text.toList) {level : Nat}
    {line : Line} (hline : line ∈ fromLevel level (lines text)) :
    .char '\n' ∉ line ∧ .char '\r' ∉ line := by
  refine ⟨feed_not_mem_fromLevel hline, fun hreturn => ?_⟩
  rcases mem_text_of_mem_fromLevel hline hreturn with hblank | ⟨htext, -⟩
  · cases hblank
  · exact h htext

/-- The lines of a text without returns that is indented anew. -/
theorem lines_reindent {text : Text} (h : .char '\r' ∉ text.toList) :
    lines (reindent text) = dropEmptyLast (fromLevel 0 (lines text)) :=
  lines_joinLines fun _ => plain_of_mem_fromLevel h

theorem reindented_lines {text : Text} (h : .char '\r' ∉ text.toList) :
    Reindented (lines text) (lines (reindent text)) := by
  rw [lines_reindent h]
  exact (reindented_fromLevel 0 (lines text)).dropEmptyLast

end Indentation

open Indentation

namespace SemanticToken

/-- A token a number of columns further on. -/
def movedBy (columns : Nat) (token : SemanticToken) : SemanticToken :=
  { token with start := token.start + columns }

theorem lexLine_add (number column columns : Nat) (previous line : Line) :
    lexLine number (column + columns) previous line =
      ((lexLine number column previous line).1.map (movedBy columns),
        (lexLine number column previous line).2) := by
  induction column, previous, line using lexLine_induction with
  | nil column previous => simp only [lexLine, List.map_nil]
  | cons column previous c rest ih =>
      have hcolumn : column + columns + 1 + (lexeme previous c rest).used =
          column + 1 + (lexeme previous c rest).used + columns := by omega
      simp only [lexLine_cons]
      rw [hcolumn, ih]
      cases (lexeme previous c rest).kind <;> rfl

/-- Blanks make no tokens. -/
theorem lexLine_blanks_append (number column : Nat) (previous : Line) {blanks : List CodePoint}
    (h : ∀ c ∈ blanks, isBlank c = true) (line : Line) :
    lexLine number column previous (blanks ++ line) =
      lexLine number (column + blanks.length) previous line := by
  induction blanks generalizing column with
  | nil => rfl
  | cons c rest ih =>
      have hc := h c List.mem_cons_self
      have hstarts : startsToken c = false := by
        have hquote : c ≠ '"' := ne_of_isBlank hc (by decide)
        have hmark : c ≠ '_' := ne_of_isBlank hc (by decide)
        rw [startsToken, isIdentifierStart, isAsciiDigit_of_isBlank hc, isLetter_of_isBlank hc,
          decide_eq_false hquote, decide_eq_false hmark]
        rfl
      have hcolumn : column + 1 + 0 + rest.length = column + (c :: rest).length := by
        rw [List.length_cons]
        omega
      simp only [List.cons_append, lexLine_cons, lexeme_other _ _ hstarts, List.drop_zero,
        Option.map_none, Option.toList_none, List.nil_append]
      rw [ih _ fun other hother => h other (List.mem_cons_of_mem _ hother), hcolumn]

/-- The tokens of a line are those of what follows its blanks. -/
theorem lexLine_eq_trimStart (number : Nat) (previous line : Line) :
    lexLine number 0 previous line =
      ((lexLine number 0 previous (trimStart line)).1.map (movedBy (leadingBlanks line).length),
        (lexLine number 0 previous (trimStart line)).2) := by
  rw [← lexLine_add, ← lexLine_blanks_append _ _ _ (fun c => isBlank_of_mem_leadingBlanks),
    leadingBlanks_append_trimStart]

/-- A token of some lines and one of other lines are the same but for their columns,
which differ as the numbers of blanks do that the two lines start with. -/
structure Moved (lines lines' : List Line) (token token' : SemanticToken) : Prop where
  line : token'.line = token.line
  length : token'.length = token.length
  kind : token'.kind = token.kind
  text : ∃ line line', lines[token.line]? = some line ∧ lines'[token.line]? = some line' ∧
    token'.start + (leadingBlanks line).length = token.start + (leadingBlanks line').length ∧
    slice line' token'.start (token'.start + token'.length) =
      slice line token.start (token.start + token.length)

/-- A part of what follows the blanks of a line, as a part of the line. -/
theorem slice_line (line : Line) (start length : Nat) :
    slice line (start + (leadingBlanks line).length)
        (start + (leadingBlanks line).length + length) =
      slice (trimStart line) start (start + length) := by
  calc
    slice line (start + (leadingBlanks line).length)
        (start + (leadingBlanks line).length + length) =
        ((leadingBlanks line ++ trimStart line).drop
          ((leadingBlanks line).length + start)).take length := by
      rw [slice_eq_take_drop, leadingBlanks_append_trimStart, Nat.add_sub_cancel_left,
        Nat.add_comm start]
    _ = slice (trimStart line) start (start + length) := by
      rw [List.drop_length_add_append, slice_eq_take_drop, Nat.add_sub_cancel_left]

theorem moved_lexLine {lines lines' : List Line} {number : Nat} {line line' : Line}
    (hline : lines[number]? = some line) (hline' : lines'[number]? = some line')
    (same : trimStart line' = trimStart line) (previous : Line) :
    List.Forall₂ (Moved lines lines') (lexLine number 0 previous line).1
        (lexLine number 0 previous line').1 ∧
      (lexLine number 0 previous line').2 = (lexLine number 0 previous line).2 := by
  rw [lexLine_eq_trimStart number previous line, lexLine_eq_trimStart number previous line', same]
  refine ⟨?_, rfl⟩
  rw [List.forall₂_map_left_iff, List.forall₂_map_right_iff, List.forall₂_same]
  intro token htoken
  obtain rfl := (within_of_mem_lexLine htoken).line
  refine ⟨rfl, rfl, rfl, line, line', hline, hline', ?_, ?_⟩
  · simp only [movedBy]
    omega
  · simp only [movedBy]
    rw [slice_line, slice_line, same]

/-- Lines that are indented anew have the same tokens, in the same order. -/
theorem moved_lexLines {lines lines' rest rest' : List Line} (h : Reindented rest rest')
    {number : Nat} (hrest : lines.drop number = rest) (hrest' : lines'.drop number = rest')
    (previous : Line) :
    List.Forall₂ (Moved lines lines') (lexLines number previous rest)
      (lexLines number previous rest') := by
  have hdrop {all later : List Line} {first : Line} {n : Nat} (hall : all.drop n = first :: later) :
      all[n]? = some first ∧ all.drop (n + 1) = later := by
    constructor
    · rw [← List.head?_drop, hall, List.head?_cons]
    · rw [← List.drop_drop, hall, List.drop_one, List.tail_cons]
  induction h generalizing number previous with
  | nil => exact .nil
  | line same later ih =>
      obtain ⟨hline, hnext⟩ := hdrop hrest
      obtain ⟨hline', hnext'⟩ := hdrop hrest'
      obtain ⟨hhere, hword⟩ := moved_lexLine hline hline' same previous
      simp only [lexLines]
      rw [hword]
      exact List.rel_append hhere (ih hnext hnext' _)
  | blank hblank later ih =>
      obtain ⟨hline, hnext⟩ := hdrop hrest
      have hend : lines'.drop (number + 1) = [] := by
        rw [← List.drop_drop, hrest', List.drop_nil]
      simp only [lexLines]
      rw [lexLine_eq_trimStart, hblank, lexLine]
      exact ih hnext hend previous

end SemanticToken

theorem Block.opens_eq_of_trimStart {line line' : Line} (same : trimStart line' = trimStart line) :
    opens line' = opens line := by
  rw [opens, opens, ← contains_trimStart (by decide) line, ← contains_trimStart (by decide) line',
    same]

theorem Block.closingFrom_reindented {lines lines' : List Line} (h : Reindented lines lines')
    (depth : Int) (number : Nat) :
    closingFrom depth number lines' = closingFrom depth number lines := by
  induction h generalizing depth number with
  | nil => rfl
  | @line line line' rest rest' same later ih =>
      have hcloses : line'.contains '\x7d' = line.contains '\x7d' := by
        rw [← contains_trimStart (by decide) line, ← contains_trimStart (by decide) line', same]
      simp only [closingFrom, opens_eq_of_trimStart same, hcloses, ih]
  | @blank line rest hblank later ih =>
      have hopens : opens line = false :=
        (opens_eq_of_trimStart hblank : opens line = opens [])
      have hcloses : line.contains '\x7d' = false := by
        rw [← contains_trimStart (by decide) line, hblank]
        rfl
      have hnone : closingFrom depth (number + 1) rest = none := (ih depth (number + 1)).symm
      simp only [closingFrom, hopens, hcloses, hnone, if_false, Bool.false_eq_true]

namespace FoldingRange

/-- The first and the last line of a foldable block. -/
def span (fold : FoldingRange) : Nat × Nat :=
  (fold.startLine, fold.endLine)

theorem span_ofLine? (number : Nat) (line : Line) (rest : List Line) :
    (ofLine? number line rest).map span =
      if Block.opens line then
        ((Block.closingFrom 0 number (line :: rest)).filter fun last => last ≠ number).map
          (number, ·)
      else none := by
  unfold ofLine?
  cases Block.opens line with
  | false => rfl
  | true =>
      simp only [if_true]
      cases Block.closingFrom 0 number (line :: rest) with
      | none => rfl
      | some last =>
          by_cases hlast : last = number
          · simp [hlast, Option.filter_some]
          · simp [hlast, Option.filter_some, span]

theorem span_ofLines {lines lines' : List Line} (h : Reindented lines lines') (number : Nat) :
    (ofLines number lines').map span = (ofLines number lines).map span := by
  induction h generalizing number with
  | nil => rfl
  | @line line line' rest rest' same later ih =>
      simp only [ofLines, List.map_append, ← Option.toList_map, span_ofLine?, ih,
        Block.opens_eq_of_trimStart same, Block.closingFrom_reindented (.line same later)]
  | @blank line rest hblank later ih =>
      have hopens : Block.opens line = false :=
        (Block.opens_eq_of_trimStart hblank : Block.opens line = Block.opens [])
      simp only [ofLines, List.map_append, ← Option.toList_map, span_ofLine?, hopens, ← ih]
      rfl

end FoldingRange

namespace Diagnostic

theorem mentionsTodo_trimStart (line : Line) :
    mentionsTodo (trimStart line) = mentionsTodo line := by
  have hblanks : ∀ c ∈ leadingBlanks line, isBlank c = true := fun c => isBlank_of_mem_leadingBlanks
  calc
    mentionsTodo (trimStart line) =
        Text.contains [.char 't', .char 'o', .char 'd', .char 'o']
          (lower (leadingBlanks line ++ trimStart line)) := by
      rw [lower_blanks_append hblanks, contains_blanks_append (by decide) hblanks, mentionsTodo]
    _ = mentionsTodo line := by rw [leadingBlanks_append_trimStart, mentionsTodo]

theorem ofLines_reindented {lines lines' : List Line} (h : Reindented lines lines') (number : Nat) :
    ((lines'.zipIdx number).filterMap fun (line, number) =>
        if mentionsTodo line then some (todoAt number) else none) =
      (lines.zipIdx number).filterMap fun (line, number) =>
        if mentionsTodo line then some (todoAt number) else none := by
  induction h generalizing number with
  | nil => rfl
  | @line line line' rest rest' same later ih =>
      have hline : mentionsTodo line' = mentionsTodo line := by
        rw [← mentionsTodo_trimStart line', same, mentionsTodo_trimStart]
      simp only [List.zipIdx_cons, List.filterMap_cons, hline, ih]
  | @blank line rest hblank later ih =>
      have hline : mentionsTodo line = false := by
        rw [← mentionsTodo_trimStart, hblank]
        rfl
      simp only [List.zipIdx_cons, List.filterMap_cons, hline, ← ih]
      rfl

end Diagnostic

/-- A text without returns and the same text indented anew have the same tokens but for
their columns, which move with the blanks that their lines start with; the same first
and last lines of foldable blocks; and the same warnings. -/
theorem Indentation.reindent_keeps_meaning {text : Text} (h : .char '\r' ∉ text.toList) :
    List.Forall₂ (SemanticToken.Moved (lines text) (lines (reindent text)))
        (SemanticToken.lex text) (SemanticToken.lex (reindent text)) ∧
      (FoldingRange.ofText (reindent text)).map FoldingRange.span =
        (FoldingRange.ofText text).map FoldingRange.span ∧
      Diagnostic.ofText (reindent text) = Diagnostic.ofText text := by
  have hreindented := reindented_lines h
  exact ⟨SemanticToken.moved_lexLines hreindented List.drop_zero List.drop_zero [],
    FoldingRange.span_ofLines hreindented 0, Diagnostic.ofLines_reindented hreindented 0⟩

/-- A function with a blank and a tab before its lines, and a blank line at the end of
the text. -/
theorem Indentation.function_reindented :
    let text : Text := "fn f() \x7b\n let a = 1;\n\t\x7d\n TODO\n "
    let text' : Text := "fn f() \x7b\n    let a = 1;\n\x7d\nTODO\n"
    .char '\r' ∉ text.toList ∧ reindent text = text' ∧
      (lines text).length = 5 ∧ (lines text').length = 4 ∧
      List.Forall₂ (SemanticToken.Moved (lines text) (lines text'))
        (SemanticToken.lex text) (SemanticToken.lex text') ∧
      (FoldingRange.ofText text').map FoldingRange.span = [(0, 2)] ∧
      Diagnostic.ofText text' = [Diagnostic.todoAt 3] := by
  intro text text'
  have hreturn : .char '\r' ∉ text.toList := by decide
  have htext : reindent text = text' := by decide +kernel
  have hfolds : (FoldingRange.ofText text).map FoldingRange.span = [(0, 2)] := by decide +kernel
  have htodo : Diagnostic.ofText text = [Diagnostic.todoAt 3] := by decide +kernel
  have hmeaning := reindent_keeps_meaning hreturn
  rw [htext, hfolds, htodo] at hmeaning
  exact ⟨hreturn, htext, by decide +kernel, by decide +kernel, hmeaning⟩

end LanguageServer
