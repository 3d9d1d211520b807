/-
# Trimmed lines

What trimming leaves of a line is the line without the white space of ASCII at its ends, and
trimming it once more leaves it alone. A client that makes the edits changes each line to what is
left of it and keeps the line's end. It reads back the trimmed lines; where nothing is left of a
last line without an end, there is no such line any more
(`Trimming.edits_trim_exactly`).
-/

import LanguageServer.Feature.Trimming
import LanguageServer.Proofs.LineEdit
import LanguageServer.Proofs.Numeral
import Mathlib.Data.List.Forall2

namespace LanguageServer

open Text

namespace Trimming

/-- What is left of a line when white space is taken away from its ends, and there is no more
of it. -/
structure IsTrimmed (kept line : Line) : Prop where
  around : ∃ front back, line = front ++ kept ++ back ∧ ∀ c ∈ front ++ back, isSpace c = true
  first : ∀ c ∈ kept.head?, isSpace c = false
  last : ∀ c ∈ kept.getLast?, isSpace c = false

theorem isTrimmed_trimmed (line : Line) : IsTrimmed (trimmed line) line := by
  have hback : line.dropWhile isSpace =
      trimmed line ++ (line.dropWhile isSpace).rtakeWhile isSpace := by
    rw [trimmed, dropEndWhile_eq_rdropWhile, List.rdropWhile_append_rtakeWhile]
  refine ⟨⟨line.takeWhile isSpace, (line.dropWhile isSpace).rtakeWhile isSpace, ?_, ?_⟩, ?_, ?_⟩
  · rw [List.append_assoc, ← hback, List.takeWhile_append_dropWhile]
  · intro c hc
    rcases List.mem_append.mp hc with hfront | hend
    · exact List.mem_takeWhile_imp hfront
    · exact List.mem_rtakeWhile_imp hend
  · intro c hc
    have hnot := List.head?_dropWhile_not isSpace line
    rwa [hback, List.head?_append, Option.mem_def.mp hc] at hnot
  · intro c hc
    obtain ⟨hne, rfl⟩ := List.mem_getLast?_eq_getLast hc
    exact Bool.eq_false_iff.mpr (List.rdropWhile_last_not isSpace _ hne)

/-- A line with no white space at its ends is left as it is. -/
theorem trimmed_of_ends {line : Line} (hfirst : ∀ c ∈ line.head?, isSpace c = false)
    (hlast : ∀ c ∈ line.getLast?, isSpace c = false) : trimmed line = line := by
  cases line with
  | nil => rfl
  | cons c rest =>
      rw [trimmed, List.dropWhile_cons_of_neg (by simp [hfirst c rfl]), dropEndWhile_eq_rdropWhile,
        List.rdropWhile_eq_self_iff]
      intro hne
      simp [hlast _ (List.getLast?_eq_some_getLast hne)]

theorem trimmed_trimmed (line : Line) : trimmed (trimmed line) = trimmed line :=
  trimmed_of_ends (isTrimmed_trimmed line).first (isTrimmed_trimmed line).last

/-- A carriage return counts as white space, so none is left at the end. -/
theorem dropReturn_trimmed (line : Line) : dropReturn (trimmed line) = trimmed line :=
  dropReturn_of_getLast? fun hlast => absurd ((isTrimmed_trimmed line).last _ hlast) (by decide)

theorem mem_of_mem_trimmed {line : Line} {c : CodePoint} (h : c ∈ trimmed line) : c ∈ line := by
  obtain ⟨front, back, hline, -⟩ := (isTrimmed_trimmed line).around
  rw [hline]
  exact List.mem_append_left _ (List.mem_append_right _ h)

/-- A line is trimmed and keeps its end. -/
def trimmedPiece (piece : Line) : Line :=
  trimmed (dropReturn piece) ++ piece.drop (dropReturn piece).length

theorem dropReturn_trimmedPiece (piece : Line) :
    dropReturn (trimmedPiece piece) = trimmed (dropReturn piece) := by
  rw [trimmedPiece]
  rcases eq_or_eq_concat_of_dropReturn piece with hsame | hreturn
  · rw [hsame, List.drop_length, List.append_nil, dropReturn_trimmed]
  · have hdrop : piece.drop (dropReturn piece).length = [.char '\r'] := by
      conv_lhs => rw [hreturn, dropReturn_concat, List.drop_left]
    rw [hdrop, dropReturn_concat]

theorem feed_not_mem_trimmedPiece {text : List CodePoint} {piece : Line}
    (h : piece ∈ pieces (.char '\n') text) : .char '\n' ∉ trimmedPiece piece := by
  intro hfeed
  refine (mem_of_mem_pieces h ?_).2 rfl
  rcases List.mem_append.mp hfeed with hline | hend
  · exact mem_of_mem_dropReturn (mem_of_mem_trimmed hline)
  · exact List.mem_of_mem_drop hend

/-- The edit of a line, where there is one, trims it. -/
theorem elim_edit? (piece : Line) (number : Nat) :
    (edit? (dropReturn piece) number).elim piece (TextEdit.replaceIn · piece) =
      trimmedPiece piece := by
  rw [edit?, trimmedPiece]
  split
  · next hsame =>
      rw [hsame]
      exact (List.prefix_iff_eq_append.mp (isPrefix_dropReturn piece)).symm
  · simp [TextEdit.replaceIn, Range.onLine]

theorem range_of_edit? {line : Line} {number : Nat} {edit : TextEdit}
    (h : edit? line number = some edit) : edit.range = .onLine number 0 line.length := by
  rw [edit?] at h
  split at h
  · cases h
  · cases h
    rfl

theorem startLine_of_edit? (line : Line) (number : Nat) (edit : TextEdit)
    (h : edit? line number = some edit) : edit.range.start.line = number := by
  rw [range_of_edit? h, Range.onLine]

theorem edits_eq_ofLines {store : Store} {uri text : Text} (h : store.get? uri = some text) :
    edits store uri = TextEdit.ofLines edit? 0 (lines text) := by
  rw [edits, h]
  rfl

/-- The edits trim each line. -/
theorem inPieces_edits (text : Text) :
    TextEdit.inPieces (TextEdit.ofLines edit? 0 (lines text)) (pieces (.char '\n') text.toList) =
      (pieces (.char '\n') text.toList).map trimmedPiece :=
  TextEdit.inPieces_ofLines_eq_map startLine_of_edit? rfl elim_edit? text

/-- The text that a client has once it has made the edits. -/
def formatted (text : Text) : Text :=
  TextEdit.applyAll (TextEdit.ofLines edit? 0 (lines text)) text

theorem lines_formatted (text : Text) :
    lines (formatted text) =
      (dropEmptyLast ((pieces (.char '\n') text.toList).map trimmedPiece)).map dropReturn := by
  rw [lines, formatted, TextEdit.applyAll, inPieces_edits]
  refine splitLines_joinLines fun piece hpiece => ?_
  obtain ⟨original, horiginal, rfl⟩ := List.mem_map.mp hpiece
  exact feed_not_mem_trimmedPiece horiginal

/-- The lines that are read back are the trimmed ones, up to an empty last one. -/
theorem map_trimmed_lines (text : Text) :
    (lines text).map trimmed = lines (formatted text) ∨
      (lines text).map trimmed = lines (formatted text) ++ [[]] := by
  have hmap : (lines text).map trimmed =
      ((dropEmptyLast (pieces (.char '\n') text.toList)).map trimmedPiece).map dropReturn := by
    rw [lines, splitLines, List.map_map, List.map_map]
    exact List.map_congr_left fun piece _ => (dropReturn_trimmedPiece piece).symm
  rw [hmap, lines_formatted]
  rcases map_dropEmptyLast (f := trimmedPiece) rfl (pieces (.char '\n') text.toList) with
    hsame | hlast
  · exact Or.inl (by rw [hsame])
  · exact Or.inr (by rw [hlast, List.map_append]; rfl)

theorem trimmed_of_mem_lines_formatted {text : Text} {line : Line}
    (h : line ∈ lines (formatted text)) : trimmed line = line := by
  rw [lines_formatted] at h
  obtain ⟨piece, hpiece, rfl⟩ := List.mem_map.mp h
  obtain ⟨original, -, rfl⟩ := List.mem_map.mp (mem_of_mem_dropEmptyLast hpiece)
  rw [dropReturn_trimmedPiece, trimmed_trimmed]

/-- The edits for a document ascend, and each one replaces a whole line. A client that makes them
has the lines without the white space at their ends, up to an empty last one, and there is
nothing more to edit. -/
theorem edits_trim_exactly {store : Store} {uri text : Text} (h : store.get? uri = some text) :
    let formatted := TextEdit.applyAll (edits store uri) text
    (edits store uri).Pairwise (fun a b => a.range.start.line < b.range.start.line) ∧
      (∀ edit ∈ edits store uri, ∃ number line, (lines text)[number]? = some line ∧
        edit.range = .onLine number 0 line.length) ∧
      (∃ last, (last = [] ∨ last = [[]]) ∧
        List.Forall₂ IsTrimmed (lines formatted ++ last) (lines text)) ∧
      edits (store.put uri formatted) uri = [] := by
  rw [edits_eq_ofLines h, ← formatted]
  refine ⟨TextEdit.pairwise_ofLines startLine_of_edit? _, ?_, ?_, ?_⟩
  · intro edit hedit
    obtain ⟨number, line, hline, hmade⟩ := mem_zipIdx_filterMap_iff.mp hedit
    exact ⟨number, line, hline, range_of_edit? hmade⟩
  · have htrimmed : List.Forall₂ IsTrimmed ((lines text).map trimmed) (lines text) :=
      List.forall₂_map_left_iff.mpr (List.forall₂_same.mpr fun line _ => isTrimmed_trimmed line)
    rcases map_trimmed_lines text with hsame | hlast
    · exact ⟨[], Or.inl rfl, by rwa [List.append_nil, ← hsame]⟩
    · exact ⟨[[]], Or.inr rfl, by rwa [← hlast]⟩
  · rw [edits_eq_ofLines (by rw [Store.get?_put, if_pos rfl]), List.eq_nil_iff_forall_not_mem]
    intro edit hedit
    obtain ⟨number, line, hline, hmade⟩ := mem_zipIdx_filterMap_iff.mp hedit
    rw [edit?, if_pos (trimmed_of_mem_lines_formatted (List.mem_of_getElem? hline))] at hmade
    cases hmade

/-- Of the returns before a line feed one is the line's end, and the white space of other scripts
stays. -/
theorem edits_trim_mixed_ends :
    let text := " a\t\r\r\n\u00a0 b\u00a0\n\x0c\r\n  "
    let store := Store.ofList [("a", text)]
    let formatted := "a\r\n\u00a0 b\u00a0\n\r\n"
    TextEdit.applyAll (edits store "a") text = formatted ∧
      (edits store "a").map TextEdit.range = [.onLine 0 0 4, .onLine 2 0 1, .onLine 3 0 2] ∧
      (∃ last, List.Forall₂ IsTrimmed (lines formatted ++ last) (lines text)) ∧
      edits (store.put "a" formatted) "a" = [] := by
  intro text store formatted
  have hformatted : TextEdit.applyAll (edits store "a") text = formatted := by decide +kernel
  obtain ⟨-, -, ⟨last, -, hlines⟩, hagain⟩ :=
    edits_trim_exactly (show store.get? "a" = some text by decide +kernel)
  rw [hformatted] at hlines hagain
  exact ⟨hformatted, by decide +kernel, ⟨last, hlines⟩, hagain⟩

end Trimming

end LanguageServer
