/-
# Places of blocks

The line that closes a block is a later line of the document, with a closing brace.
From it come the places of a block that can be folded, and those of a function and of
the calls in it.
-/

import LanguageServer.Feature.CallHierarchy
import LanguageServer.Feature.Folding
import LanguageServer.Proofs.Place
import Mathlib.Data.List.SplitBy

namespace LanguageServer

open Text

namespace Block

/-- The line that closes a block is one of the lines looked at, and it closes a
block. -/
theorem closes_of_closingFrom {depth : Int} {number last : Nat} {lines : List Line}
    (h : closingFrom depth number lines = some last) :
    number ≤ last ∧ ∃ line, lines[last - number]? = some line ∧ closes line = true := by
  induction lines generalizing depth number with
  | nil => cases h
  | cons line rest ih =>
      have hlater {depth' : Int} (hrest : closingFrom depth' (number + 1) rest = some last) :
          number ≤ last ∧ ∃ found, (line :: rest)[last - number]? = some found ∧
            closes found = true := by
        obtain ⟨hle, found, hfound, hcloses⟩ := ih hrest
        refine ⟨by omega, found, ?_, hcloses⟩
        rwa [show last - number = last - (number + 1) + 1 by omega, List.getElem?_cons_succ]
      simp only [closingFrom] at h
      split at h
      · exact hlater h
      · next hopens =>
          split at h
          · next hbrace =>
              split at h
              · cases h
                refine ⟨Nat.le_refl _, line, by rw [Nat.sub_self]; rfl, ?_⟩
                rw [closes, hbrace, Bool.and_true, Bool.not_eq_true']
                exact eq_false_of_ne_true hopens
              · exact hlater h
          · exact hlater h

/-- A block that is opened on a line is closed on a later one. -/
theorem lt_of_closingFrom {depth : Int} {number last : Nat} {line : Line} {rest : List Line}
    (hopens : opens line = true) (h : closingFrom depth number (line :: rest) = some last) :
    number < last := by
  obtain ⟨hle, found, hfound, hcloses⟩ := closes_of_closingFrom h
  refine Nat.lt_of_le_of_ne hle ?_
  rintro rfl
  rw [Nat.sub_self] at hfound
  cases hfound
  rw [closes, hopens] at hcloses
  cases hcloses

end Block

namespace Declared

/-- A line with its number and the lines after it is taken from a document. -/
def From (declared : Declared) (lines : List Line) : Prop :=
  lines.drop declared.number = declared.line :: declared.rest

theorem mem_all_iff {declared : Declared} {number : Nat} {lines : List Line} :
    declared ∈ all number lines ↔
      number ≤ declared.number ∧
        lines.drop (declared.number - number) = declared.line :: declared.rest := by
  induction lines generalizing number with
  | nil => simp [all]
  | cons line rest ih =>
      rw [all, List.mem_cons, ih]
      constructor
      · rintro (rfl | ⟨hle, hrest⟩)
        · exact ⟨Nat.le_refl _, by rw [Nat.sub_self]; rfl⟩
        · refine ⟨by omega, ?_⟩
          rwa [show declared.number - number = declared.number - (number + 1) + 1 by omega,
            List.drop_succ_cons]
      · rintro ⟨hle, hdrop⟩
        obtain heq | hlt := Nat.eq_or_lt_of_le hle
        · rw [heq, Nat.sub_self, List.drop_zero] at hdrop
          obtain ⟨rfl, rfl⟩ := List.cons.inj hdrop
          rw [heq]
          exact Or.inl rfl
        · refine Or.inr ⟨hlt, ?_⟩
          rwa [show declared.number - number = declared.number - (number + 1) + 1 by omega,
            List.drop_succ_cons] at hdrop

/-- All lines of a document are taken from it. -/
theorem from_of_mem_all {declared : Declared} {lines : List Line}
    (h : declared ∈ all 0 lines) : declared.From lines :=
  (mem_all_iff.mp h).2

variable {declared : Declared} {lines : List Line}

theorem From.getElem? (h : declared.From lines) (offset : Nat) :
    lines[declared.number + offset]? = (declared.line :: declared.rest)[offset]? := by
  rw [← h, List.getElem?_drop]

theorem From.line (h : declared.From lines) : lines[declared.number]? = some declared.line :=
  h.getElem? 0

/-- The last line of a declaration's block is a line of the document. -/
theorem From.stop (h : declared.From lines) :
    declared.number ≤ declared.stop.line ∧
      ∃ line, lines[declared.stop.line]? = some line ∧ declared.stop.character = line.length := by
  have hlast : ∃ offset line, declared.stop.line = declared.number + offset ∧
      (declared.line :: declared.rest)[offset]? = some line := by
    cases hclosing : declared.closing? with
    | some last =>
        obtain ⟨hle, line, hline, -⟩ := Block.closes_of_closingFrom hclosing
        refine ⟨last - declared.number, line, ?_, hline⟩
        simp only [Declared.stop, hclosing, Option.getD_some]
        omega
    | none =>
        refine ⟨declared.rest.length, _, ?_, List.getElem?_eq_getElem (Nat.lt_succ_self _)⟩
        simp only [Declared.stop, hclosing, Option.getD_none]
  obtain ⟨offset, line, hstop, hline⟩ := hlast
  refine ⟨by omega, line, by rw [hstop, h.getElem?, hline], ?_⟩
  have hoffset : declared.stop.line - declared.number = offset := by omega
  have hcharacter : declared.stop.character =
      ((declared.line :: declared.rest).getD (declared.stop.line - declared.number) []).length :=
    rfl
  rw [hcharacter, hoffset, List.getD_eq_getElem?_getD, hline, Option.getD_some]

/-- All of a declaration, from the start of its line to where its block ends. -/
theorem From.inside (h : declared.From lines) :
    Range.Inside ⟨⟨declared.number, 0⟩, declared.stop⟩ lines := by
  obtain ⟨hle, line, hline, hlength⟩ := h.stop
  refine ⟨⟨declared.line, h.line, Nat.zero_le _⟩, ⟨line, hline, Nat.le_of_eq hlength⟩, ?_⟩
  simp only [Position.NotAfter]
  omega

end Declared

namespace FoldingRange

theorem mem_ofLines_iff {fold : FoldingRange} {number : Nat} {lines : List Line} :
    fold ∈ ofLines number lines ↔
      ∃ declared ∈ Declared.all number lines,
        ofLine? declared.number declared.line declared.rest = some fold := by
  induction lines generalizing number with
  | nil => simp [ofLines, Declared.all]
  | cons line rest ih =>
      rw [ofLines, List.mem_append, Option.mem_toList, ih, Declared.all]
      simp only [List.mem_cons, exists_eq_or_imp]

/-- A foldable block goes from a line that opens a block to the line that closes it. -/
theorem ofLine?_eq_some {fold : FoldingRange} {number : Nat} {line : Line} {rest : List Line}
    (h : ofLine? number line rest = some fold) :
    Block.opens line = true ∧ Block.closingFrom 0 number (line :: rest) = some fold.endLine ∧
      fold = ⟨number, openingColumn line, fold.endLine,
        closingColumn ((line :: rest).getD (fold.endLine - number) [])⟩ := by
  rw [ofLine?] at h
  split at h
  · next hopens =>
      split at h
      · cases h
      · next last hclosing =>
          split at h
          · cases h
          · cases h
            exact ⟨hopens, hclosing, rfl⟩
  · cases h

/-- A brace stands inside the line that has it. -/
theorem idxOf_le_length {brace : CodePoint} {line : Line} (h : line.contains brace = true) :
    line.idxOf brace ≤ line.length :=
  Nat.le_of_lt (List.idxOf_lt_length_iff.mpr (List.contains_iff_mem.mp h))

/-- The two lines of a foldable block, of which the first one opens a block and the last one
closes a block, and the columns of their first braces. -/
theorem exists_lines_of_mem {fold : FoldingRange} {text : Text} (h : fold ∈ ofText text) :
    fold.startLine < fold.endLine ∧ ∃ first last,
      (lines text)[fold.startLine]? = some first ∧ Block.opens first = true ∧
        fold.startCharacter = openingColumn first ∧
      (lines text)[fold.endLine]? = some last ∧ Block.closes last = true ∧
        fold.endCharacter = closingColumn last := by
  obtain ⟨declared, hmem, hline⟩ := mem_ofLines_iff.mp h
  have hfrom := Declared.from_of_mem_all hmem
  obtain ⟨hopens, hclosing, hfold⟩ := ofLine?_eq_some hline
  have hlt := Block.lt_of_closingFrom hopens hclosing
  obtain ⟨-, last, hlast, hcloses⟩ := Block.closes_of_closingFrom hclosing
  rw [hfold]
  refine ⟨hlt, declared.line, last, hfrom.line, hopens, rfl, ?_, hcloses, ?_⟩
  · have hget := hfrom.getElem? (fold.endLine - declared.number)
    rwa [show declared.number + (fold.endLine - declared.number) = fold.endLine by omega, hlast]
      at hget
  · simp only [List.getD_eq_getElem?_getD, hlast, Option.getD_some]

theorem inside_of_mem {fold : FoldingRange} {text : Text} (h : fold ∈ ofText text) :
    Position.Inside ⟨fold.startLine, fold.startCharacter⟩ (lines text) ∧
      Position.Inside ⟨fold.endLine, fold.endCharacter⟩ (lines text) ∧
      fold.startLine < fold.endLine := by
  obtain ⟨hlt, first, last, hfirst, hopens, hstart, hlast, hcloses, hstop⟩ := exists_lines_of_mem h
  refine ⟨⟨first, hfirst, ?_⟩, ⟨last, hlast, ?_⟩, hlt⟩
  · rw [hstart]
    exact idxOf_le_length hopens
  · rw [hstop]
    exact idxOf_le_length (Bool.and_eq_true_iff.mp hcloses).2

end FoldingRange

/-- The places of a function: it lies in the document that it names, its name lies in
it, and the name is what stands there. -/
structure CallItem.Placed (item : CallItem) (lines : List Line) : Prop where
  range : item.range.Inside lines
  selection : item.selection.Inside lines
  within : item.selection.Within item.range
  name : item.selection.Covers lines item.name.toList

theorem CallItem.placed_ofDeclared {declared : Declared} {lines : List Line} {name : Line}
    (hfrom : declared.From lines) (hname : Declaration.function? declared.line = some name)
    (uri : Text) : (CallItem.ofDeclared uri declared).Placed lines := by
  obtain ⟨hcolumn, hprefix⟩ := Declaration.prefix_of_function? hname
  have hend := end_le_of_prefix_drop hcolumn hprefix
  have hselection : (ofDeclared uri declared).selection =
      .onLine declared.number (Declaration.functionColumn declared.line)
        (Declaration.functionColumn declared.line + name.length) := by
    simp only [ofDeclared, hname, Option.getD_some]
  refine ⟨hfrom.inside, ?_, ⟨?_, ?_⟩, ?_⟩
  · rw [hselection]
    exact Range.inside_word hfrom.line hend
  · rw [hselection]
    exact Or.inr ⟨rfl, Nat.zero_le _⟩
  · obtain ⟨hle, line, hline, hlength⟩ := hfrom.stop
    rw [hselection]
    change Position.NotAfter ⟨declared.number, _⟩ declared.stop
    obtain heq | hlt := Nat.eq_or_lt_of_le hle
    · -- A block that ends on its first line ends with that line.
      rw [← heq, hfrom.line] at hline
      cases hline
      exact Or.inr ⟨heq, hlength ▸ hend⟩
    · exact Or.inl hlt
  · rw [hselection]
    simp only [ofDeclared, hname, Option.getD_some]
    exact Range.covers_word hfrom.line hprefix

theorem CallItem.placed_of_mem_inDocument {item : CallItem} {name : Line} {uri text : Text}
    (h : item ∈ inDocument name uri text) : item.uri = uri ∧ item.Placed (lines text) := by
  rw [inDocument, List.mem_filterMap] at h
  obtain ⟨declared, hmem, hitem⟩ := h
  split at hitem
  · next hname =>
      cases hitem
      exact ⟨rfl, placed_ofDeclared (Declared.from_of_mem_all hmem) hname uri⟩
  · cases hitem

namespace CallSite

/-- A call in a document: it lies in it, and a line of it declares the caller. -/
structure Placed (site : CallSite) (lines : List Line) : Prop where
  caller : site.caller.From lines
  declares : (Declaration.function? site.caller.line).isSome = true
  range : site.range.Inside lines

variable {lines : List Line} {known : Option Declared}

/-- The nearest declaration, if there is one, is taken from the document. -/
def Known (known : Option Declared) (lines : List Line) : Prop :=
  ∀ declared ∈ known, declared.From lines ∧
    (Declaration.function? declared.line).isSome = true

theorem known_nearest (hknown : Known known lines) {next : Declared} (hnext : next.From lines) :
    Known (Declared.nearest known next) lines := by
  rw [Declared.nearest]
  split
  · next hdeclares =>
      rintro declared ⟨⟩
      exact ⟨hnext, hdeclares⟩
  · exact hknown

theorem end_le_of_mem_columns {name line : Line} {column : Nat}
    (h : column ∈ columns name line) : column + name.length ≤ line.length := by
  have hfound : column ∈ wordStarts (startsWith name) none 0 line := by
    simp only [columns] at h
    split at h
    · exact (List.mem_filter.mp h).1
    · exact h
  refine end_le_of_mem_wordStarts (fun text htext => ?_) hfound
  exact (List.prefix_append name ['(']).trans (List.isPrefixOf_iff_prefix.mp htext)

theorem placed_of_mem_onLine {site : CallSite} {name line : Line} {number : Nat}
    (hknown : Known known lines) (hline : lines[number]? = some line)
    (h : site ∈ onLine name known line number) : site.Placed lines := by
  rw [onLine] at h
  split at h
  · cases h
  · split at h
    · cases h
    · next caller hcaller =>
        obtain ⟨column, hcolumn, rfl⟩ := List.mem_map.mp h
        obtain ⟨hfrom, hdeclares⟩ := hknown caller (Option.filter_eq_some_iff.mp hcaller).1
        exact ⟨hfrom, hdeclares, Range.inside_word hline (end_le_of_mem_columns hcolumn)⟩

/-- The calls in the lines from a number on lie in the document. -/
theorem placed_of_mem_inLines {site : CallSite} {name : Line} {number : Nat} {rest : List Line}
    (hknown : Known known lines) (hrest : lines.drop number = rest)
    (h : site ∈ inLines name known number rest) : site.Placed lines := by
  induction rest generalizing number known with
  | nil => cases h
  | cons line rest ih =>
      have hnext : Declared.From ⟨number, line, rest⟩ lines := hrest
      have hnearest := known_nearest hknown hnext
      rcases List.mem_append.mp h with hhere | hlater
      · exact placed_of_mem_onLine hnearest hnext.line hhere
      · refine ih hnearest ?_ hlater
        rw [← List.drop_drop, hrest, List.drop_one, List.tail_cons]

end CallSite

namespace IncomingCall

theorem placed_of_mem_inDocument {call : IncomingCall} {name : Line} {uri text : Text}
    (h : call ∈ inDocument name uri text) :
    call.caller.uri = uri ∧ call.caller.Placed (lines text) ∧
      ∀ range ∈ call.ranges, range.Inside (lines text) := by
  rw [inDocument, List.mem_filterMap] at h
  obtain ⟨sites, hsites, hcall⟩ := h
  have hplaced : ∀ site ∈ sites, site.Placed (lines text) := by
    intro site hsite
    have hmem := List.mem_flatten_of_mem hsites hsite
    rw [List.flatten_splitBy] at hmem
    exact CallSite.placed_of_mem_inLines (fun _ hnone => by cases hnone) List.drop_zero hmem
  cases sites with
  | nil => cases hcall
  | cons site rest =>
      cases hcall
      have hfirst := hplaced site List.mem_cons_self
      obtain ⟨name, hname⟩ := Option.isSome_iff_exists.mp hfirst.declares
      refine ⟨rfl, CallItem.placed_ofDeclared hfirst.caller hname uri, fun range hrange => ?_⟩
      obtain ⟨other, hother, rfl⟩ := List.mem_map.mp hrange
      exact (hplaced other hother).range

end IncomingCall

end LanguageServer
