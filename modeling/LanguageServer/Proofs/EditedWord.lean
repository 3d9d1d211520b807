/-
# Which words are edited

The places that rename edits are found by looking for the characters of the variable's name, and
the characters around them are not looked at. What is edited on a line is a part of the first word
that has the name in it, which may be longer than the name. The edits stay away from other
identifiers exactly if this first word is the name itself on each line that has one
(`Reference.longer_words_edited_exactly`).
-/

import LanguageServer.Proofs.FirstOccurrence

namespace LanguageServer

open Text

namespace Text

section Part

variable {p : CodePoint → Bool} {part text : Line} {start stop start' stop' column : Nat}

/-- A text of some characters of a class lies in a run of the class. -/
theorem exists_isRun_of_prefix_drop (hpart : part ≠ []) (hclass : ∀ c ∈ part, p c = true)
    (h : part <+: text.drop column) :
    ∃ start stop, IsRun p text start stop ∧ start ≤ column ∧ column + part.length ≤ stop := by
  have hinside := any_of_prefix_drop hclass h
  have hlt : column < column + part.length :=
    Nat.lt_add_of_pos_right (List.length_pos_iff.mpr hpart)
  have hhere := hinside column (Nat.le_refl _) hlt
  obtain ⟨c, hc, hp⟩ := (Option.any_eq_true ..).mp hhere
  have hrun := isRun_scans hhere
  exact ⟨_, _, hrun, hrun.maximal hinside (runStart_le ..) (lt_runStop hc hp) (Nat.le_refl _) hlt⟩

/-- A part of a line has a text in it if the text stands somewhere between its columns. -/
theorem isInfix_slice_iff (hordered : start ≤ stop) :
    part <:+: slice text start stop ↔
      ∃ column, start ≤ column ∧ column + part.length ≤ stop ∧ part <+: text.drop column := by
  constructor
  · rintro ⟨front, back, heq⟩
    have hlength : (front ++ part ++ back).length ≤ stop - start := by
      rw [heq, slice_eq_take_drop]
      exact List.length_take_le ..
    obtain ⟨rest, hrest⟩ := slice_prefix_drop text start stop
    refine ⟨start + front.length, Nat.le_add_right .., ?_, back ++ rest, ?_⟩
    · simp only [List.length_append] at hlength
      omega
    · rw [← List.drop_drop, ← hrest, ← heq, List.append_assoc, List.append_assoc]
      exact List.drop_left.symm
  · rintro ⟨column, hstart, hstop, hhere⟩
    have hprefix : part <+: (slice text start stop).drop (column - start) := by
      rw [drop_slice hstart, slice_eq_take_drop, List.prefix_take_iff]
      exact ⟨hhere, by omega⟩
    exact hprefix.isInfix.trans (List.drop_suffix ..).isInfix

/-- Of the runs that have a text in them, the one where it first stands comes first. -/
theorem StandsFirst.start_le (hpart : part ≠ []) (h : StandsFirst part text column)
    (hrun : IsRun p text start stop) (hstart : start ≤ column)
    (hrun' : IsRun p text start' stop') (hhas : part <:+: slice text start' stop') :
    start ≤ start' := by
  obtain ⟨column', hstart', hstop', hhere⟩ :=
    (isInfix_slice_iff (Nat.le_of_lt hrun'.nonempty)).mp hhas
  have hpos := List.length_pos_iff.mpr hpart
  have hle : column ≤ column' := Nat.le_of_not_lt fun hlt => h.earlier column' hlt hhere
  by_contra hlt
  -- The other run goes over the start of this one, so the two are the same.
  have hover : start' ≤ start := by omega
  have hinside : start < stop' := by omega
  obtain ⟨heq, -⟩ := hrun.unique hrun' (Nat.le_refl start) hrun.nonempty hover hinside
  omega

end Part

end Text

namespace Range

variable {part word line : Line} {lines : List Line} {range inner : Range} {number column : Nat}

/-- A range is the first word on its line that has a part in it. -/
structure IsFirstWordWith (range : Range) (part : Line) (lines : List Line) (word : Line) :
    Prop where
  isWord : range.IsWord lines word
  has : part <:+: word
  first : ∀ (other : Range) (word' : Line), other.IsWord lines word' → part <:+: word' →
    other.start.line = range.start.line → range.start.character ≤ other.start.character

/-- A place of a word that lies in a longer one is no word of its own. -/
theorem isWord_iff_eq (hline : lines[number]? = some line) (hpart : part ≠ [])
    (hhere : part <+: line.drop column) (hword : range.IsWord lines word)
    (hwithin : (onLine number column (column + part.length)).Within range) :
    (onLine number column (column + part.length)).IsWord lines part ↔ word = part := by
  obtain ⟨number', line', start, stop, hline', ⟨hrun, hslice⟩, rfl⟩ := isWord_iff.mp hword
  have hpos := List.length_pos_iff.mpr hpart
  obtain ⟨hstart, hstop⟩ := hwithin
  simp only [onLine, Position.NotAfter] at hstart hstop
  obtain rfl : number' = number := by omega
  obtain rfl : line' = line := Option.some.inj (hline'.symm.trans hline)
  constructor
  · rintro ⟨-, line, hline'', hrun', hslice'⟩
    obtain rfl : line' = line := Option.some.inj (hline'.symm.trans hline'')
    have hfrom : start ≤ column := by omega
    have hbefore : column < stop := by omega
    obtain ⟨rfl, rfl⟩ := hrun.unique hrun' hfrom hbefore (Nat.le_refl column)
      (Nat.lt_add_of_pos_right hpos)
    exact hslice.symm.trans hslice'
  · rintro rfl
    have hlength := hrun.stop_eq
    rw [hslice] at hlength
    obtain rfl : start = column := by omega
    rwa [← hlength]

/-- Where a text first stands on a line, it lies in the first word that has it. -/
theorem exists_isFirstWordWith (hpart : part ≠ []) (hclass : ∀ c ∈ part, isWordChar c = true)
    (hline : lines[number]? = some line) (hfirst : StandsFirst part line column) :
    ∃ (range : Range) (word : Line), range.IsFirstWordWith part lines word ∧
      (onLine number column (column + part.length)).Within range := by
  obtain ⟨start, stop, hrun, hstart, hstop⟩ :=
    exists_isRun_of_prefix_drop hpart hclass hfirst.here
  have hhas : part <:+: slice line start stop :=
    (isInfix_slice_iff (Nat.le_of_lt hrun.nonempty)).mpr ⟨column, hstart, hstop, hfirst.here⟩
  refine ⟨.onLine number start stop, slice line start stop, ⟨⟨rfl, line, hline, hrun, rfl⟩, hhas,
    ?_⟩, ⟨Or.inr ⟨rfl, hstart⟩, Or.inr ⟨rfl, hstop⟩⟩⟩
  intro other word' hword' hhas' heq
  obtain ⟨number', line', start', stop', hline', ⟨hrun', rfl⟩, rfl⟩ := isWord_iff.mp hword'
  obtain rfl : number' = number := heq
  obtain rfl : line' = line := Option.some.inj (hline'.symm.trans hline)
  exact hfirst.start_le hpart hrun hstart hrun' hhas'

/-- A line has one first word with a part. -/
theorem IsFirstWordWith.unique {other : Range} {word' : Line}
    (h : range.IsFirstWordWith part lines word) (h' : other.IsFirstWordWith part lines word')
    (hline : other.start.line = range.start.line) : other = range ∧ word' = word := by
  have hle := h.first _ _ h'.isWord h'.has hline
  have hle' := h'.first _ _ h.isWord h.has hline.symm
  obtain ⟨number, line, start, stop, hnumber, ⟨hrun, rfl⟩, rfl⟩ := isWord_iff.mp h.isWord
  obtain ⟨number', line', start', stop', hnumber', ⟨hrun', rfl⟩, rfl⟩ := isWord_iff.mp h'.isWord
  obtain rfl : number' = number := hline
  obtain rfl : line' = line := Option.some.inj (hnumber'.symm.trans hnumber)
  obtain rfl : start' = start := Nat.le_antisymm hle' hle
  obtain ⟨-, rfl⟩ := hrun.unique hrun' (Nat.le_refl _) hrun.nonempty (Nat.le_refl _) hrun'.nonempty
  exact ⟨rfl, rfl⟩

end Range

namespace Reference

section Lines

variable {lines : List Line} {ranges : List Range} {word : Range} {name : Line}

/-- The ranges of the variable and the first words that have its name in them belong to each other,
and a range is a word of its own if the word is the name. -/
theorem firstWord_of_mem (h : FirstOnLines target lines ranges) {range : Range}
    (hrange : range ∈ ranges) :
    ∃ (word : Range) (name : Line), word.IsFirstWordWith target lines name ∧ range.Within word ∧
      (range.IsWord lines target ↔ name = target) := by
  obtain ⟨number, line, column, hline, hfirst, rfl⟩ := h.first range hrange
  obtain ⟨word, name, hword, hwithin⟩ :=
    Range.exists_isFirstWordWith target_ne_nil isWordChar_of_mem_target hline hfirst
  exact ⟨word, name, hword, hwithin,
    Range.isWord_iff_eq hline target_ne_nil hfirst.here hword.isWord hwithin⟩

theorem mem_of_firstWord (h : FirstOnLines target lines ranges)
    (hword : word.IsFirstWordWith target lines name) :
    ∃ range ∈ ranges, range.Within word ∧ (range.IsWord lines target ↔ name = target) := by
  obtain ⟨-, line, hline, hrun, rfl⟩ := hword.isWord
  have hslice : slice line word.start.character word.stop.character <:+: line :=
    (slice_prefix_drop ..).isInfix.trans (List.drop_suffix ..).isInfix
  obtain ⟨range, hrange, hnumber⟩ := (h.each _ line hline).mp (hword.has.trans hslice)
  obtain ⟨word', name', hword', hwithin, hiff⟩ := firstWord_of_mem h hrange
  have hsame : word'.start.line = word.start.line := by
    have hstart := hwithin.start
    have hstop := hwithin.stop
    have heq := hword'.isWord.1
    obtain ⟨number, line', column, -, -, rfl⟩ := h.first range hrange
    simp only [Position.NotAfter, Range.onLine] at hstart hstop hnumber
    omega
  obtain ⟨rfl, rfl⟩ := hword.unique hword' hsame
  exact ⟨range, hrange, hwithin, hiff⟩

end Lines

/-- What rename edits, references report and highlights show are parts of words: on each line the
place of the name in the first word that has it. These places are words of their own, with no word
character before or behind them, exactly if each of these first words is the name itself. -/
theorem longer_words_edited_exactly {store : Store} {uri newName : Text} {position edit : Json}
    (h : rename? store uri position newName = some edit) :
    ∃ text ranges, store.get? uri = some text ∧ Agree store uri position newName text ranges ∧
      (∀ range ∈ ranges, ∃ (word : Range) (name : Line),
        word.IsFirstWordWith target (lines text) name ∧ range.Within word ∧
          (range.IsWord (lines text) target ↔ name = target)) ∧
      (∀ (word : Range) (name : Line), word.IsFirstWordWith target (lines text) name →
        ∃ range ∈ ranges, range.Within word ∧ (range.IsWord (lines text) target ↔ name = target)) ∧
      ((∀ range ∈ ranges, range.IsWord (lines text) target) ↔
        ∀ (word : Range) (name : Line), word.IsFirstWordWith target (lines text) name →
          name = target) := by
  obtain ⟨ranges, hranges, -⟩ := Option.map_eq_some_iff.mp h
  obtain ⟨text, htext, -, rfl⟩ := occurrences?_eq_some_iff.mp hranges
  have hagree := agree_firstOccurrences newName hranges
  refine ⟨text, _, htext, hagree, fun range => firstWord_of_mem hagree.first,
    fun word name => mem_of_firstWord hagree.first, ?_⟩
  constructor
  · intro hwords word name hword
    obtain ⟨range, hrange, -, hiff⟩ := mem_of_firstWord hagree.first hword
    exact hiff.mp (hwords range hrange)
  · intro hnames range hrange
    obtain ⟨word, name, hword, -, hiff⟩ := firstWord_of_mem hagree.first hrange
    exact hiff.mpr (hnames word name hword)

/-- The line has another variable, whose name starts like that of the one that is renamed. -/
theorem longer_word_edited :
    let text : Text := "let my_variable2 = my_variable;"
    let store := Store.ofList [("file:///a.toy", text)]
    let position := Position.toJson ⟨0, 19⟩
    let range := Range.onLine 0 4 15
    rename? store "file:///a.toy" position "x" =
        some (renameJson "file:///a.toy" (.str "x") [range]) ∧
      highlights store "file:///a.toy" position = [range] ∧
      ¬range.IsWord (lines text) target ∧
      ∃ (word : Range) (name : Line), word.IsFirstWordWith target (lines text) name ∧
        range.Within word ∧ name ≠ target := by
  intro text store position range
  have hoccurrences : occurrences? store "file:///a.toy" position = some [range] := by
    decide +kernel
  have hrename : rename? store "file:///a.toy" position "x" =
      some (renameJson "file:///a.toy" (.str "x") [range]) :=
    congrArg (Option.map (renameJson "file:///a.toy" (.str "x"))) hoccurrences
  have hhighlights : highlights store "file:///a.toy" position = [range] := by decide +kernel
  have hnoWord : ¬range.IsWord (lines text) target := by
    rintro ⟨-, line, hline, hrun, -⟩
    have hhere : (lines text)[0]? = some (Text.toList text) := by decide +kernel
    obtain rfl : Text.toList text = line := Option.some.inj (hhere.symm.trans hline)
    exact absurd hrun.after (by decide +kernel)
  obtain ⟨text', ranges, htext, hagree, hmem, -⟩ := longer_words_edited_exactly hrename
  obtain rfl : text = text' :=
    Option.some.inj ((by decide +kernel : store.get? "file:///a.toy" = some text).symm.trans htext)
  obtain rfl : ranges = [range] := hagree.highlights.symm.trans hhighlights
  obtain ⟨word, name, hword, hwithin, hiff⟩ := hmem range List.mem_cons_self
  exact ⟨hrename, hhighlights, hnoWord, word, name, hword, hwithin, mt hiff.mpr hnoWord⟩

end Reference

end LanguageServer
