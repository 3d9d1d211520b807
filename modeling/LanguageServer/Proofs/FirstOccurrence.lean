/-
# First occurrences

The search for a word finds the leftmost place where it stands. References, highlights and rename
report this place for each line that has the variable's name. They speak of the same ranges, and
a client that makes the edits puts the new name there and leaves everything else alone. There are
such ranges exactly where the cursor is in front of the name, because the line of the cursor has
the name then (`Reference.occurrences_edited_alike`).

Whether the name is a whole word where it first stands is another matter.
-/

import LanguageServer.Feature.Reference
import LanguageServer.Proofs.LineEdit
import LanguageServer.Proofs.WordRun
import Mathlib.Data.List.Forall2

namespace LanguageServer

open Text

namespace Text

section Place

variable {word text : List CodePoint} {column : Nat}

/-- A word stands at a column of a text, and at no column before it. -/
structure StandsFirst (word text : List CodePoint) (column : Nat) : Prop where
  here : word <+: text.drop column
  earlier : ∀ before < column, ¬word <+: text.drop before

theorem standsFirst_zero_iff : StandsFirst word text 0 ↔ word <+: text :=
  ⟨StandsFirst.here, fun h => ⟨h, fun _ hlt => absurd hlt (Nat.not_lt_zero _)⟩⟩

theorem standsFirst_cons_succ_iff {c : CodePoint} :
    StandsFirst word (c :: text) (column + 1) ↔
      ¬word <+: c :: text ∧ StandsFirst word text column := by
  constructor
  · intro h
    exact ⟨h.earlier 0 (Nat.succ_pos _), h.here, fun before hlt =>
      h.earlier (before + 1) (Nat.succ_lt_succ hlt)⟩
  · rintro ⟨hhead, h⟩
    refine ⟨h.here, fun before hlt => ?_⟩
    cases before with
    | zero => exact hhead
    | succ before => exact h.earlier before (Nat.lt_of_succ_lt_succ hlt)

/-- The search finds the leftmost place. -/
theorem find?_eq_some_iff : find? word text = some column ↔ StandsFirst word text column := by
  induction text generalizing column with
  | nil =>
      cases column with
      | zero => rw [standsFirst_zero_iff, List.prefix_nil, find?]; simp
      | succ column =>
          -- What stands behind the end of the text stands at its start as well.
          apply iff_of_false
          · rw [find?]
            split <;> simp
          · exact fun h => h.earlier 0 (Nat.succ_pos _) h.here
  | cons c rest ih =>
      cases column with
      | zero =>
          rw [standsFirst_zero_iff, ← List.isPrefixOf_iff_prefix, find?]
          split <;> simp [*]
      | succ column =>
          rw [standsFirst_cons_succ_iff, ← ih, ← List.isPrefixOf_iff_prefix, find?]
          split <;> simp [*]

theorem find?_eq_none_iff : find? word text = none ↔ ¬word <:+: text := by
  rw [← contains_iff_isInfix, contains, Option.not_isSome_iff_eq_none]

/-- A text has a word if there is a first place for it. -/
theorem isInfix_iff_exists_standsFirst :
    word <:+: text ↔ ∃ column, StandsFirst word text column := by
  rw [← contains_iff_isInfix, contains, Option.isSome_iff_exists]
  exact exists_congr fun _ => find?_eq_some_iff

/-- What a text becomes when a word is replaced where it first stands. A text without the word
stays as it is. -/
inductive FirstReplaced (word new : List CodePoint) : List CodePoint → List CodePoint → Prop
  | occurrence {text : List CodePoint} {column : Nat} (h : StandsFirst word text column) :
      FirstReplaced word new text (text.take column ++ new ++ text.drop (column + word.length))
  | absent {text : List CodePoint} (h : ¬word <:+: text) : FirstReplaced word new text text

/-- A text with a word replaced where the search finds it. -/
def replaceFirst (word new text : List CodePoint) : List CodePoint :=
  match find? word text with
  | none => text
  | some column => text.take column ++ new ++ text.drop (column + word.length)

theorem firstReplaced_replaceFirst (word new text : List CodePoint) :
    FirstReplaced word new text (replaceFirst word new text) := by
  rw [replaceFirst]
  split
  · next hfind => exact .absent (find?_eq_none_iff.mp hfind)
  · next hfind => exact .occurrence (find?_eq_some_iff.mp hfind)

end Place

/-- The ranges of a word in some lines: one for each line that has it, in the order of the lines,
and each where the word first stands on its line. -/
structure FirstOnLines (word : Line) (lines : List Line) (ranges : List Range) : Prop where
  ordered : ranges.Pairwise fun a b => a.start.line < b.start.line
  each : ∀ number line, lines[number]? = some line →
    (word <:+: line ↔ ∃ range ∈ ranges, range.start.line = number)
  first : ∀ range ∈ ranges, ∃ number line column, lines[number]? = some line ∧
    StandsFirst word line column ∧ range = .onLine number column (column + word.length)

section Lines

variable {word : Line} {lines : List Line} {range : Range}

theorem mem_firstOccurrences_iff :
    range ∈ firstOccurrences word lines ↔ ∃ number line column, lines[number]? = some line ∧
      StandsFirst word line column ∧ range = .onLine number column (column + word.length) := by
  refine (mem_zipIdx_filterMap_iff (f := fun line number => (find? word line).map fun column =>
    Range.onLine number column (column + word.length))).trans ?_
  simp only [Option.map_eq_some_iff, find?_eq_some_iff, eq_comm (a := range), exists_and_left]

theorem firstOnLines_firstOccurrences (word : Line) (lines : List Line) :
    FirstOnLines word lines (firstOccurrences word lines) where
  ordered := by
    rw [firstOccurrences, List.pairwise_filterMap]
    refine (pairwise_zipIdx lines).imp fun hlt a ha b hb => ?_
    obtain ⟨column, -, rfl⟩ := Option.map_eq_some_iff.mp ha
    obtain ⟨column', -, rfl⟩ := Option.map_eq_some_iff.mp hb
    exact hlt
  each := by
    intro number line hline
    rw [isInfix_iff_exists_standsFirst]
    constructor
    · rintro ⟨column, hfirst⟩
      exact ⟨_, mem_firstOccurrences_iff.mpr ⟨number, line, column, hline, hfirst, rfl⟩, rfl⟩
    · rintro ⟨range, hrange, rfl⟩
      obtain ⟨number, line', column, hline', hfirst, rfl⟩ := mem_firstOccurrences_iff.mp hrange
      obtain rfl : line' = line := Option.some.inj (hline'.symm.trans hline)
      exact ⟨column, hfirst⟩
  first _ := mem_firstOccurrences_iff.mp

end Lines

/-- What is on a line is changed, and a carriage return at its end stays. -/
def KeepsEnd (changes : Line → Line → Prop) (piece after : Line) : Prop :=
  ∃ line, changes (dropReturn piece) line ∧ after = line ++ piece.drop (dropReturn piece).length

/-- The edit that replaces a word where it first stands on a line. -/
def firstEdit? (word : Line) (new : Text) (line : Line) (number : Nat) : Option TextEdit :=
  (find? word line).map fun column => ⟨.onLine number column (column + word.length), new⟩

theorem startLine_of_firstEdit? {word : Line} {new : Text} (line : Line) (number : Nat)
    (edit : TextEdit) (h : firstEdit? word new line number = some edit) :
    edit.range.start.line = number := by
  obtain ⟨column, -, rfl⟩ := Option.map_eq_some_iff.mp h
  rfl

theorem map_firstOccurrences (word : Line) (new : Text) (lines : List Line) :
    (firstOccurrences word lines).map (TextEdit.mk · new) =
      TextEdit.ofLines (firstEdit? word new) 0 lines := by
  rw [firstOccurrences, TextEdit.ofLines, List.map_filterMap]
  congr
  ext entry edit
  simp only [firstEdit?, Option.map_map]
  rfl

/-- A line with its end, after a word on it is replaced where the search finds it. -/
def replaceOnLine (word new piece : Line) : Line :=
  replaceFirst word new (dropReturn piece) ++ piece.drop (dropReturn piece).length

theorem replaceOnLine_nil {word : Line} (hword : word ≠ []) (new : Line) :
    replaceOnLine word new [] = [] := by
  have hnone : find? word [] = none := find?_eq_none_iff.mpr (mt List.infix_nil.mp hword)
  show replaceFirst word new [] ++ [] = []
  rw [replaceFirst, hnone, List.append_nil]

/-- The edit of a line changes what is on the line only. -/
theorem elim_firstEdit? (word : Line) (new : Text) (piece : Line) (number : Nat) :
    (firstEdit? word new (dropReturn piece) number).elim piece (TextEdit.replaceIn · piece) =
      replaceOnLine word new.toList piece := by
  have hpiece : dropReturn piece ++ piece.drop (dropReturn piece).length = piece :=
    List.prefix_iff_eq_append.mp (isPrefix_dropReturn piece)
  rw [firstEdit?, replaceOnLine, replaceFirst]
  cases hfind : find? word (dropReturn piece) with
  | none => exact hpiece.symm
  | some column =>
      have hend := end_le_of_find? hfind
      calc
        piece.take column ++ new.toList ++ piece.drop (column + word.length)
        _ = (dropReturn piece ++ piece.drop (dropReturn piece).length).take column ++ new.toList ++
              (dropReturn piece ++ piece.drop (dropReturn piece).length).drop
                (column + word.length) := by rw [hpiece]
        _ = (dropReturn piece).take column ++ new.toList ++
              ((dropReturn piece).drop (column + word.length) ++
                piece.drop (dropReturn piece).length) := by
          rw [List.take_append_of_le_length (by omega), List.drop_append_of_le_length hend]
        _ = (dropReturn piece).take column ++ new.toList ++
              (dropReturn piece).drop (column + word.length) ++
                piece.drop (dropReturn piece).length := (List.append_assoc ..).symm

/-- A client that replaces a word where it first stands on each line changes these places only. -/
theorem applyAll_firstOccurrences {word : Line} (hword : word ≠ []) (new text : Text) :
    TextEdit.applyAll ((firstOccurrences word (lines text)).map (TextEdit.mk · new)) text =
      Text.ofList
        (joinLines ((pieces (.char '\n') text.toList).map (replaceOnLine word new.toList))) := by
  rw [map_firstOccurrences, TextEdit.applyAll, TextEdit.inPieces_ofLines_eq_map
    startLine_of_firstEdit? (replaceOnLine_nil hword _) (elim_firstEdit? word new)]

theorem forall₂_replaceOnLine (word new : Line) (parts : List Line) :
    List.Forall₂ (KeepsEnd (FirstReplaced word new)) parts
      (parts.map (replaceOnLine word new)) := by
  rw [List.forall₂_map_right_iff, List.forall₂_same]
  exact fun piece _ => ⟨_, firstReplaced_replaceFirst .., rfl⟩

end Text

namespace Reference

theorem isWordChar_of_mem_target : ∀ c ∈ target, isWordChar c = true :=
  List.all_eq_true.mp (by decide +kernel)

theorem target_ne_nil : target ≠ [] := by decide

/-- A cursor is in front of the variable's name: the name stands there, and no word character
follows it. Other word characters may come before. -/
def AtName (lines : List Line) (cursor : Cursor) : Prop :=
  ∃ (number column : Nat) (text : Line), cursor = ⟨number, column⟩ ∧ lines[number]? = some text ∧
    target <+: text.drop column ∧ (text[column + target.length]?).any isWordChar = false

/-- The cursor that a client names is in front of the variable's name. -/
def PointsAtName (position : Json) (lines : List Line) : Prop :=
  ∃ cursor, Cursor.ofJson? position = some cursor ∧ AtName lines cursor

theorem wordFrom?_eq_target_iff {lines : List Line} {cursor : Cursor} :
    (wordFrom? lines cursor).map Word.text = some target ↔ AtName lines cursor := by
  have hread (line : Line) (column : Nat) :
      slice line column (runStop isWordChar line column) =
        (line.drop column).takeWhile isWordChar := by
    rw [slice_eq_take_drop, runStop, Nat.add_sub_cancel_left]
    exact (List.prefix_iff_eq_take.mp (List.takeWhile_prefix isWordChar)).symm
  simp only [wordFrom?, Option.map_map, Option.map_eq_some_iff, Function.comp_apply, hread,
    takeWhile_drop_eq_iff isWordChar_of_mem_target, Prod.exists, locate?_eq_some_iff]
  constructor
  · rintro ⟨line, column, ⟨number, rfl, hline, -⟩, hname⟩
    exact ⟨number, column, line, rfl, hline, hname⟩
  · rintro ⟨number, column, line, rfl, hline, hname⟩
    have hcolumn := Nat.le_of_lt (lt_of_prefix_drop target_ne_nil hname.1)
    exact ⟨line, column, ⟨number, rfl, hline, hcolumn⟩, hname⟩

variable {store : Store} {uri text : Text} {position : Json}

theorem wordLeftOf?_eq_target_iff (h : store.get? uri = some text) :
    wordLeftOf? store uri position 0 = some target ↔ PointsAtName position (lines text) := by
  rw [wordLeftOf?, h, PointsAtName]
  cases Cursor.ofJson? position with
  | none => simp
  | some cursor =>
      simp only [Int.sub_zero, Option.some.injEq, exists_eq_left']
      exact wordFrom?_eq_target_iff

/-- The occurrences of the variable are reported to a cursor in front of its name. -/
theorem occurrences?_eq_some_iff {ranges : List Range} :
    occurrences? store uri position = some ranges ↔ ∃ text, store.get? uri = some text ∧
      PointsAtName position (lines text) ∧ ranges = firstOccurrences target (lines text) := by
  rw [occurrences?]
  cases hget : store.get? uri with
  | none => simp
  | some text =>
      simp only [Option.some.injEq, exists_eq_left', Option.ite_none_right_eq_some,
        wordLeftOf?_eq_target_iff hget, eq_comm (a := ranges)]

/-- The line of a cursor in front of the name has the name. -/
theorem firstOccurrences_ne_nil {lines : List Line} (h : PointsAtName position lines) :
    firstOccurrences target lines ≠ [] := by
  obtain ⟨-, -, number, column, line, -, hline, hname, -⟩ := h
  have hinfix : target <:+: line := hname.isInfix.trans (List.drop_suffix column line).isInfix
  obtain ⟨range, hrange, -⟩ :=
    ((firstOnLines_firstOccurrences target lines).each number line hline).mp hinfix
  exact List.ne_nil_of_mem hrange

/-- References, highlights and rename report the same ranges of the variable in a document, and
the edits put the new name there. -/
structure Agree (store : Store) (uri : Text) (position : Json) (newName text : Text)
    (ranges : List Range) : Prop where
  references : references store uri position = ranges.map (⟨uri, ·⟩)
  highlights : highlights store uri position = ranges
  rename : rename? store uri position newName = some (Wire.workspaceEdit
    (.obj [(uri, .arr ((ranges.map (TextEdit.mk · newName)).map TextEdit.toJson))]))
  first : FirstOnLines target (lines text) ranges
  edited : ∃ parts, TextEdit.applyAll (ranges.map (TextEdit.mk · newName)) text =
      Text.ofList (joinLines parts) ∧
    List.Forall₂ (KeepsEnd (FirstReplaced target newName.toList))
      (pieces (.char '\n') text.toList) parts

theorem agree_firstOccurrences (newName : Text)
    (h : occurrences? store uri position = some (firstOccurrences target (lines text))) :
    Agree store uri position newName text (firstOccurrences target (lines text)) where
  references := by rw [references, h, Option.getD_some]
  highlights := by rw [highlights, h, Option.getD_some]
  rename := by
    rw [rename?, h, Option.map_some, renameJson, List.map_map]
    rfl
  first := firstOnLines_firstOccurrences target (lines text)
  edited := ⟨_, applyAll_firstOccurrences target_ne_nil newName text, forall₂_replaceOnLine ..⟩

/-- Rename makes no edit exactly where there are no references, and where there is nothing to
highlight, which is where the cursor is not in front of the variable's name. Otherwise the three
report the same ranges: one on each line that has the name, where it first stands. The edits
replace it there by the new name and change nothing else. -/
theorem occurrences_edited_alike (store : Store) (uri : Text) (position : Json)
    (newName : Text) :
    (rename? store uri position newName = none ↔ references store uri position = []) ∧
      (references store uri position = [] ↔ highlights store uri position = []) ∧
      (highlights store uri position = [] ↔ ¬store.HasLines uri (PointsAtName position)) ∧
      (rename? store uri position newName = none ∨ ∃ text ranges, store.get? uri = some text ∧
        Agree store uri position newName text ranges) := by
  cases h : occurrences? store uri position with
  | none =>
      have hrename : rename? store uri position newName = none := by
        rw [rename?, h, Option.map_none]
      have hreferences : references store uri position = [] := by rw [references, h]; rfl
      have hhighlights : highlights store uri position = [] := by rw [highlights, h]; rfl
      have hpoints : ¬store.HasLines uri (PointsAtName position) := by
        rintro ⟨text, htext, hpoints⟩
        cases h.symm.trans (occurrences?_eq_some_iff.mpr ⟨text, htext, hpoints, rfl⟩)
      exact ⟨iff_of_true hrename hreferences, iff_of_true hreferences hhighlights,
        iff_of_true hhighlights hpoints, Or.inl hrename⟩
  | some ranges =>
      obtain ⟨text, htext, hpoints, rfl⟩ := occurrences?_eq_some_iff.mp h
      have hagree := agree_firstOccurrences newName h
      have hsome := firstOccurrences_ne_nil hpoints
      have hrename : rename? store uri position newName ≠ none := by
        rw [hagree.rename]
        exact Option.some_ne_none _
      have hreferences : references store uri position ≠ [] := by
        rw [hagree.references]
        exact mt List.map_eq_nil_iff.mp hsome
      have hhighlights : highlights store uri position ≠ [] := by
        rw [hagree.highlights]
        exact hsome
      exact ⟨iff_of_false hrename hreferences, iff_of_false hreferences hhighlights,
        iff_of_false hhighlights (not_not.mpr ⟨text, htext, hpoints⟩),
        Or.inr ⟨text, _, htext, hagree⟩⟩

/-- A line that has the name twice, one that ends in a return, and one without the name. -/
example :
    let text := "my_variable = my_variable\r\n\r\nf(my_variable)"
    let store := Store.ofList [("file:///a.toy", text)]
    let ranges := highlights store "file:///a.toy" (Position.toJson ⟨2, 2⟩)
    TextEdit.applyAll (ranges.map (TextEdit.mk · "y")) text =
      "y = my_variable\r\n\r\nf(y)" := by
  decide +kernel

end Reference

end LanguageServer
