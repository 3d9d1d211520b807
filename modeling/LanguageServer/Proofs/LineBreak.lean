/-
# Line breaks are not seen

A line may be ended by a line feed or by a carriage return and a line feed, and each line
of a text in its own way. The lines of the text do not tell (`Text.lines_endedText`), and
the answers about documents depend on their lines alone: stores whose documents have the
same lines are asked with the same outcome (`Store.Alike.answersAgree`). So a document may
be opened with one choice of line breaks or another (`Store.line_breaks_unseen`).

The search for symbols in the workspace is not among these answers: it looks at the whole
text of a document before it looks at the lines.
-/

import LanguageServer.Feature.CallHierarchy
import LanguageServer.Feature.CodeLens
import LanguageServer.Feature.Completion
import LanguageServer.Feature.Diagnostic
import LanguageServer.Feature.Folding
import LanguageServer.Feature.Indentation
import LanguageServer.Feature.InlayHint
import LanguageServer.Feature.LinkedEditing
import LanguageServer.Feature.Reference
import LanguageServer.Feature.Selection
import LanguageServer.Feature.SemanticToken
import LanguageServer.Feature.Signature
import LanguageServer.Feature.Symbol
import LanguageServer.Feature.Trimming
import LanguageServer.Proofs.Lines
import Mathlib.Data.List.Forall2

namespace LanguageServer

open Text

namespace Text

/-- What ends a line. -/
inductive LineBreak
  | feed
  | returnFeed
  deriving DecidableEq, Repr

/-- What of a line break stands before its line feed. -/
def LineBreak.returns : LineBreak → List CodePoint
  | .feed => []
  | .returnFeed => ['\r']

/-- A line and the break after it. A carriage return at the end of the line would belong to
the break. -/
structure EndedLine where
  line : Line
  stop : LineBreak
  unbroken : .char '\n' ∉ line
  bare : line.getLast? ≠ some (.char '\r')

namespace EndedLine

/-- The line with what stands before its line feed. -/
def piece (ended : EndedLine) : Line :=
  ended.line ++ ended.stop.returns

theorem feed_not_mem_piece (ended : EndedLine) : .char '\n' ∉ ended.piece := by
  rw [piece, List.mem_append, not_or]
  refine ⟨ended.unbroken, ?_⟩
  cases ended.stop with
  | feed => exact List.not_mem_nil
  | returnFeed => decide

theorem dropReturn_piece (ended : EndedLine) : dropReturn ended.piece = ended.line := by
  rw [piece]
  cases ended.stop with
  | feed => rw [LineBreak.returns, List.append_nil, dropReturn_of_getLast? ended.bare]
  | returnFeed => rw [LineBreak.returns, dropReturn_concat]

end EndedLine

/-- The text of lines with their breaks. -/
def endedText (parts : List EndedLine) : Text :=
  Text.ofList (parts.flatMap fun ended => ended.piece ++ [.char '\n'])

/-- The lines of a text do not tell how they were ended. -/
theorem lines_endedText (parts : List EndedLine) :
    lines (endedText parts) = parts.map EndedLine.line := by
  have hfeed : ∀ part ∈ parts.map EndedLine.piece, .char '\n' ∉ part := by
    intro part hpart
    obtain ⟨ended, -, rfl⟩ := List.mem_map.mp hpart
    exact ended.feed_not_mem_piece
  have htext : (endedText parts).toList =
      (parts.map EndedLine.piece).flatMap fun part => part ++ [.char '\n'] := by
    rw [endedText, List.flatMap_map]
  rw [lines, htext, splitLines_ended hfeed, List.map_map]
  exact List.map_congr_left fun ended _ => ended.dropReturn_piece

end Text

/-- Everything that is asked about one text comes out the same for another one. -/
structure Text.AnswersAgree (text text' : Text) : Prop where
  diagnostics : Diagnostic.ofText text = Diagnostic.ofText text'
  codeLenses : CodeLens.ofText text = CodeLens.ofText text'
  linkedRanges : ∀ position, LinkedRanges.at? text position = LinkedRanges.at? text' position
  tokens : SemanticToken.answer text = SemanticToken.answer text'
  selections : ∀ positions, Selection.ofText text positions = Selection.ofText text' positions
  folds : FoldingRange.ofText text = FoldingRange.ofText text'
  reindented : Indentation.reindent text = Indentation.reindent text'

theorem Text.answersAgree_of_lines {text text' : Text} (h : lines text = lines text') :
    Text.AnswersAgree text text' where
  diagnostics := by rw [Diagnostic.ofText, Diagnostic.ofText, h]
  codeLenses := by rw [CodeLens.ofText, CodeLens.ofText, h]
  linkedRanges position := by rw [LinkedRanges.at?, LinkedRanges.at?, h]
  tokens := by simp only [SemanticToken.answer, SemanticToken.lex, h]
  selections positions := by simp only [Selection.ofText, h]
  folds := by rw [FoldingRange.ofText, FoldingRange.ofText, h]
  reindented := by rw [Indentation.reindent, Indentation.reindent, h]

namespace Store

/-- Two documents of the same name and with the same lines. -/
def SameLines (document document' : Text × Text) : Prop :=
  document.1 = document'.1 ∧ lines document.2 = lines document'.2

/-- Two stores with the same documents in the same order, but for the line breaks. -/
def Alike (store store' : Store) : Prop :=
  List.Forall₂ SameLines store.entries store'.entries

variable {store store' : Store}

/-- Documents with the same lines are opened in the same place. -/
theorem alike_put (store : Store) (uri : Text) {text text' : Text}
    (h : lines text = lines text') : Alike (store.put uri text) (store.put uri text') := by
  rw [Alike, entries_put, entries_put]
  have hsame (entries : List (Text × Text)) : List.Forall₂ SameLines entries entries :=
    List.forall₂_same.mpr fun document _ => ⟨rfl, rfl⟩
  induction store.entries with
  | nil => exact .cons ⟨rfl, h⟩ .nil
  | cons entry rest ih =>
      rw [OrderedMap.insert, OrderedMap.insert]
      split
      · exact .cons ⟨rfl, h⟩ (hsame rest)
      · exact .cons ⟨rfl, rfl⟩ ih

/-- A document is open in both stores, with the same lines, or in neither. -/
theorem Alike.get? (h : Alike store store') (uri : Text) :
    (store.get? uri = none ∧ store'.get? uri = none) ∨
      ∃ text text', store.get? uri = some text ∧ store'.get? uri = some text' ∧
        lines text = lines text' := by
  rw [Store.get?, Store.get?]
  rw [Alike] at h
  generalize store.entries = entries, store'.entries = entries' at h ⊢
  induction h with
  | nil => exact Or.inl ⟨rfl, rfl⟩
  | @cons document document' rest rest' hsame hrest ih =>
      obtain ⟨name, text⟩ := document
      obtain ⟨name', text'⟩ := document'
      obtain ⟨rfl, hlines⟩ : name = name' ∧ lines text = lines text' := hsame
      by_cases hname : uri = name
      · subst hname
        rw [List.lookup_cons_self, List.lookup_cons_self]
        exact Or.inr ⟨text, text', rfl, rfl, hlines⟩
      · rw [OrderedMap.lookup_cons_of_ne hname, OrderedMap.lookup_cons_of_ne hname]
        exact ih

/-- What is gathered from the lines of all documents is the same for both stores. -/
theorem Alike.flatMap_eq {α : Type} (h : Alike store store') {ask : Text → Text → List α}
    (hask : ∀ uri text text', lines text = lines text' → ask uri text = ask uri text') :
    (store.entries.flatMap fun (uri, text) => ask uri text) =
      store'.entries.flatMap fun (uri, text) => ask uri text := by
  rw [Alike] at h
  generalize store.entries = entries, store'.entries = entries' at h ⊢
  induction h with
  | nil => rfl
  | @cons document document' rest rest' hsame hrest ih =>
      obtain ⟨uri, text⟩ := document
      obtain ⟨uri', text'⟩ := document'
      obtain ⟨rfl, hlines⟩ : uri = uri' ∧ lines text = lines text' := hsame
      rw [List.flatMap_cons, List.flatMap_cons, ih]
      exact congrArg (· ++ _) (hask uri text text' hlines)

/-- Everything that is asked about the documents of one store comes out the same for another
one. -/
structure AnswersAgree (store store' : Store) : Prop where
  completion : ∀ uri position,
    Completion.suggestions store uri position = Completion.suggestions store' uri position
  hover : ∀ uri position, Hover.at? store uri position = Hover.at? store' uri position
  definition : ∀ uri position,
    Definition.at? store uri position = Definition.at? store' uri position
  references : ∀ uri position,
    Reference.references store uri position = Reference.references store' uri position
  rename : ∀ uri position newName,
    Reference.rename? store uri position newName = Reference.rename? store' uri position newName
  highlights : ∀ uri position,
    Reference.highlights store uri position = Reference.highlights store' uri position
  symbols : ∀ uri, DocumentSymbol.ofDocument store uri = DocumentSymbol.ofDocument store' uri
  hints : ∀ uri range, InlayHint.ofDocument store uri range = InlayHint.ofDocument store' uri range
  signature : ∀ uri position,
    SignatureHelp.at? store uri position = SignatureHelp.at? store' uri position
  trimming : ∀ uri, Trimming.edits store uri = Trimming.edits store' uri
  calls : ∀ uri position,
    CallItem.prepare? store uri position = CallItem.prepare? store' uri position
  incoming : ∀ name, IncomingCall.incoming store name = IncomingCall.incoming store' name

theorem Alike.wordLeftOf?_eq (h : Alike store store') (uri : Text) (position : Json)
    (columns : Int) :
    wordLeftOf? store uri position columns = wordLeftOf? store' uri position columns := by
  rcases h.get? uri with ⟨hnone, hnone'⟩ | ⟨text, text', htext, htext', hlines⟩
  · simp only [wordLeftOf?, hnone, hnone']
  · cases hplace : Cursor.ofJson? position <;>
      simp only [wordLeftOf?, htext, htext', hlines, hplace]

theorem Alike.occurrences?_eq (h : Alike store store') (uri : Text) (position : Json) :
    Reference.occurrences? store uri position = Reference.occurrences? store' uri position := by
  rcases h.get? uri with ⟨hnone, hnone'⟩ | ⟨text, text', htext, htext', hlines⟩
  · simp only [Reference.occurrences?, hnone, hnone']
  · simp only [Reference.occurrences?, htext, htext', hlines, h.wordLeftOf?_eq]

theorem Alike.inDocuments_eq (h : Alike store store') (name : Line) :
    (store.entries.flatMap fun (uri, text) => CallItem.inDocument name uri text) =
      store'.entries.flatMap fun (uri, text) => CallItem.inDocument name uri text :=
  h.flatMap_eq fun uri text text' hlines => by
    rw [CallItem.inDocument, CallItem.inDocument, hlines]

/-- Stores whose documents have the same lines give the same answers. -/
theorem Alike.answersAgree (h : Alike store store') : AnswersAgree store store' where
  completion uri position := by
    rcases h.get? uri with ⟨hnone, hnone'⟩ | ⟨text, text', htext, htext', hlines⟩
    · simp only [Completion.suggestions, hnone, hnone']
    · cases hplace : Cursor.ofJson? position <;>
        simp only [Completion.suggestions, htext, htext', hlines, hplace]
  hover uri position := by rw [Hover.at?, Hover.at?, h.wordLeftOf?_eq]
  definition uri position := by rw [Definition.at?, Definition.at?, h.wordLeftOf?_eq]
  references uri position := by
    rw [Reference.references, Reference.references, h.occurrences?_eq]
  rename uri position newName := by
    rw [Reference.rename?, Reference.rename?, h.occurrences?_eq]
  highlights uri position := by
    rw [Reference.highlights, Reference.highlights, h.occurrences?_eq]
  symbols uri := by
    rcases h.get? uri with ⟨hnone, hnone'⟩ | ⟨text, text', htext, htext', hlines⟩
    · simp only [DocumentSymbol.ofDocument, hnone, hnone']
    · simp only [DocumentSymbol.ofDocument, htext, htext', hlines]
  hints uri range := by
    rcases h.get? uri with ⟨hnone, hnone'⟩ | ⟨text, text', htext, htext', hlines⟩
    · simp only [InlayHint.ofDocument, hnone, hnone']
    · cases hplace : Bounds.ofJson? range <;>
        simp only [InlayHint.ofDocument, htext, htext', hlines, hplace]
  signature uri position := by
    rcases h.get? uri with ⟨hnone, hnone'⟩ | ⟨text, text', htext, htext', hlines⟩
    · simp only [SignatureHelp.at?, hnone, hnone']
    · cases hplace : Cursor.ofJson? position <;>
        simp only [SignatureHelp.at?, htext, htext', hlines, hplace]
  trimming uri := by
    rcases h.get? uri with ⟨hnone, hnone'⟩ | ⟨text, text', htext, htext', hlines⟩
    · simp only [Trimming.edits, hnone, hnone']
    · simp only [Trimming.edits, htext, htext', hlines]
  calls uri position := by
    rcases h.get? uri with ⟨hnone, hnone'⟩ | ⟨text, text', htext, htext', hlines⟩
    · simp only [CallItem.prepare?, hnone, hnone']
    · cases hplace : Cursor.ofJson? position <;>
        simp only [CallItem.prepare?, htext, htext', hlines, hplace, h.inDocuments_eq]
  incoming name := by
    rw [IncomingCall.incoming, IncomingCall.incoming,
      h.flatMap_eq fun uri text text' hlines => by
        rw [IncomingCall.inDocument, IncomingCall.inDocument, hlines]]

/-- The same lines with other line breaks, opened under the same name beside the same other
documents, make no difference to any answer. -/
theorem line_breaks_unseen (store : Store) (uri : Text) {parts parts' : List EndedLine}
    (h : parts.map EndedLine.line = parts'.map EndedLine.line) :
    Text.AnswersAgree (endedText parts) (endedText parts') ∧
      AnswersAgree (store.put uri (endedText parts)) (store.put uri (endedText parts')) := by
  have hlines : lines (endedText parts) = lines (endedText parts') := by
    rw [lines_endedText, lines_endedText, h]
  exact ⟨Text.answersAgree_of_lines hlines, (alike_put store uri hlines).answersAgree⟩

/-- A line and an empty one, each with one break in the first text and with the other one in
the second. -/
theorem exchanged_breaks_unseen :
    let store := Store.ofList [("file:///b", "fn main() \x7b\r\n\x7d")]
    let line := Text.toList "let my_variable = 1;"
    let parts : List EndedLine :=
      [⟨line, .returnFeed, by decide, by decide⟩, ⟨[], .feed, by decide, by decide⟩]
    let parts' : List EndedLine :=
      [⟨line, .feed, by decide, by decide⟩, ⟨[], .returnFeed, by decide, by decide⟩]
    let text : Text := "let my_variable = 1;\r\n\n"
    let text' : Text := "let my_variable = 1;\n\r\n"
    endedText parts = text ∧ endedText parts' = text' ∧
      parts.map EndedLine.line = parts'.map EndedLine.line ∧
      Text.AnswersAgree text text' ∧
      AnswersAgree (store.put "file:///a" text) (store.put "file:///a" text') := by
  intro store line parts parts' text text'
  have htext : endedText parts = text := by decide
  have htext' : endedText parts' = text' := by decide
  have hlines : parts.map EndedLine.line = parts'.map EndedLine.line := rfl
  have hunseen := line_breaks_unseen store "file:///a" hlines
  rw [htext, htext'] at hunseen
  exact ⟨htext, htext', hlines, hunseen⟩

end Store

end LanguageServer
