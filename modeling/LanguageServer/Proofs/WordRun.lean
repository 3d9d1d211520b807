/-
# Runs of characters

The scans to the left and to the right of a column find the run that it lies in: the
longest part of the line around it whose characters are of one class. No two runs of one
class share a column, so any column of a run finds it.
-/

import LanguageServer.Proofs.Place
import Mathlib.Data.List.TakeWhile

namespace LanguageServer

namespace Text

variable {p : CodePoint → Bool} {text : Line} {start stop column : Nat}

/-- A part of a line is a run of a class of characters: it has a column, a character of the
class stands at each of its columns, and none stands directly before it or after it. -/
structure IsRun (p : CodePoint → Bool) (text : Line) (start stop : Nat) : Prop where
  nonempty : start < stop
  inside : ∀ column, start ≤ column → column < stop → (text[column]?).any p = true
  before : (characterBefore none text start).any p = false
  after : (text[stop]?).any p = false

theorem runStart_succ {c : CodePoint} (hc : text[column]? = some c) :
    runStart p text (column + 1) = if p c then runStart p text column else column + 1 := by
  rw [runStart, reverse_take_succ hc, List.takeWhile_cons]
  split
  · rw [List.length_cons, Nat.succ_sub_succ, runStart]
  · rfl

theorem before_runStart (h : column ≤ text.length) :
    (characterBefore none text (runStart p text column)).any p = false := by
  induction column with
  | zero => rfl
  | succ column ih =>
      obtain ⟨c, hc⟩ : ∃ c, text[column]? = some c := ⟨_, List.getElem?_eq_getElem h⟩
      rw [runStart_succ hc]
      split
      · exact ih (Nat.le_of_succ_le h)
      · next hother =>
          rw [characterBefore, hc]
          exact Bool.not_eq_true _ ▸ hother

theorem any_of_runStart_le {here : Nat} (h : column ≤ text.length)
    (hstart : runStart p text column ≤ here) (hhere : here < column) :
    (text[here]?).any p = true := by
  induction column with
  | zero => cases hhere
  | succ column ih =>
      obtain ⟨c, hc⟩ : ∃ c, text[column]? = some c := ⟨_, List.getElem?_eq_getElem h⟩
      rw [runStart_succ hc] at hstart
      split at hstart
      · next hclass =>
          obtain hlater | rfl := Nat.lt_succ_iff_lt_or_eq.mp hhere
          · exact ih (Nat.le_of_succ_le h) hstart hlater
          · rwa [hc]
      · exact absurd hhere (Nat.not_lt.mpr hstart)

theorem drop_runStop (p : CodePoint → Bool) (text : Line) (column : Nat) :
    text.drop (runStop p text column) = (text.drop column).dropWhile p := by
  have hsplit := List.takeWhile_append_dropWhile (p := p) (l := text.drop column)
  calc
    text.drop (runStop p text column) =
        (text.drop column).drop ((text.drop column).takeWhile p).length := by
      rw [runStop, List.drop_drop]
    _ = ((text.drop column).takeWhile p ++ (text.drop column).dropWhile p).drop
          ((text.drop column).takeWhile p).length := by rw [hsplit]
    _ = (text.drop column).dropWhile p := List.drop_left

theorem after_runStop (p : CodePoint → Bool) (text : Line) (column : Nat) :
    (text[runStop p text column]?).any p = false := by
  have hhead := List.head?_dropWhile_not p (text.drop column)
  rw [← List.head?_drop, drop_runStop]
  cases hstop : ((text.drop column).dropWhile p).head? with
  | none => rfl
  | some c =>
      rw [hstop] at hhead
      exact hhead

theorem any_of_lt_runStop {here : Nat} (hhere : column ≤ here)
    (hstop : here < runStop p text column) : (text[here]?).any p = true := by
  obtain ⟨offset, rfl⟩ := Nat.exists_eq_add_of_le hhere
  have hlt : offset < ((text.drop column).takeWhile p).length := by
    rw [runStop] at hstop
    omega
  have hget := List.prefix_iff_getElem?.mp (List.takeWhile_prefix p (l := text.drop column))
  have hclass := List.mem_takeWhile_imp (List.getElem_mem hlt)
  rwa [← List.getElem?_drop, hget offset hlt]

/-- What a scan from a column reads is a word of characters of the class exactly if the word stands
there and no character of the class follows it. -/
theorem takeWhile_drop_eq_iff {word : Line} (hclass : ∀ c ∈ word, p c = true) :
    (text.drop column).takeWhile p = word ↔
      word <+: text.drop column ∧ (text[column + word.length]?).any p = false := by
  constructor
  · rintro rfl
    exact ⟨List.takeWhile_prefix p, after_runStop p text column⟩
  · rintro ⟨⟨rest, hrest⟩, hafter⟩
    have hstop : rest.takeWhile p = [] := by
      cases rest with
      | nil => rfl
      | cons c rest =>
          rw [← List.getElem?_drop, ← hrest, List.getElem?_append_right (Nat.le_refl _),
            Nat.sub_self] at hafter
          exact List.takeWhile_cons_of_neg (ne_true_of_eq_false hafter)
    rw [← hrest, List.takeWhile_append_of_pos hclass, hstop, List.append_nil]

/-- The scans from a column of a class find the run of the class that it lies in. -/
theorem isRun_scans (h : (text[column]?).any p = true) :
    IsRun p text (runStart p text column) (runStop p text column) := by
  obtain ⟨c, hc, hclass⟩ := (Option.any_eq_true ..).mp h
  have hlength := Nat.le_of_lt (List.getElem?_eq_some_iff.mp hc).1
  refine ⟨Nat.lt_of_le_of_lt (runStart_le ..) (lt_runStop hc hclass), ?_,
    before_runStart hlength, after_runStop ..⟩
  intro here hstart hstop
  obtain hbefore | hfrom := Nat.lt_or_ge here column
  · exact any_of_runStart_le hlength hstart hbefore
  · exact any_of_lt_runStop hfrom hstop

namespace IsRun

variable {start' stop' : Nat}

/-- A run has all columns of any part of the line that has characters of the class only and a
column in common with the run. -/
theorem maximal (h : IsRun p text start stop)
    (hclass : ∀ column, start' ≤ column → column < stop' → (text[column]?).any p = true)
    (hstart : start ≤ column) (hstop : column < stop) (hstart' : start' ≤ column)
    (hstop' : column < stop') : start ≤ start' ∧ stop' ≤ stop := by
  constructor
  · by_contra hlt
    obtain ⟨before, rfl⟩ : ∃ before, start = before + 1 := ⟨start - 1, by omega⟩
    have hinside := hclass before (by omega) (by omega)
    have hbefore := h.before
    rw [characterBefore, hinside] at hbefore
    cases hbefore
  · by_contra hlt
    have hinside := hclass stop (by omega) (by omega)
    rw [h.after] at hinside
    cases hinside

/-- Runs of one class that share a column are the same. -/
theorem unique (h : IsRun p text start stop) (h' : IsRun p text start' stop')
    (hstart : start ≤ column) (hstop : column < stop) (hstart' : start' ≤ column)
    (hstop' : column < stop') : start' = start ∧ stop' = stop := by
  have hfirst := h.maximal h'.inside hstart hstop hstart' hstop'
  have hsecond := h'.maximal h.inside hstart' hstop' hstart hstop
  omega

/-- The scans from a column of a run find the run. -/
theorem scans_eq (h : IsRun p text start stop) (hstart : start ≤ column) (hstop : column < stop) :
    runStart p text column = start ∧ runStop p text column = stop := by
  have hclass := h.inside column hstart hstop
  obtain ⟨c, hc, hp⟩ := (Option.any_eq_true ..).mp hclass
  exact h.unique (isRun_scans hclass) hstart hstop (runStart_le ..) (lt_runStop hc hp)

theorem stop_le_length (h : IsRun p text start stop) : stop ≤ text.length := by
  have hnonempty := h.nonempty
  obtain ⟨c, hc, -⟩ := (Option.any_eq_true ..).mp (h.inside (stop - 1) (by omega) (by omega))
  have hlast := (List.getElem?_eq_some_iff.mp hc).1
  omega

/-- A run ends where its text does. -/
theorem stop_eq (h : IsRun p text start stop) :
    stop = start + (slice text start stop).length := by
  have hnonempty := h.nonempty
  rw [length_slice h.stop_le_length]
  omega

theorem slice_ne_nil (h : IsRun p text start stop) : slice text start stop ≠ [] := by
  intro hnil
  have hstop := h.stop_eq
  rw [hnil] at hstop
  exact Nat.ne_of_gt h.nonempty hstop

/-- Each character of a run is of its class. -/
theorem of_mem_slice (h : IsRun p text start stop) {c : CodePoint}
    (hc : c ∈ slice text start stop) :
    p c = true := by
  obtain ⟨offset, hoffset⟩ := List.mem_iff_getElem?.mp hc
  rw [slice_eq_take_drop, List.getElem?_take, List.getElem?_drop] at hoffset
  split at hoffset
  · next hlt =>
      have hinside := h.inside (start + offset) (Nat.le_add_right ..) (by omega)
      rwa [hoffset] at hinside
  · cases hoffset

end IsRun

/-- Where a word of characters of a class stands, each column of it has a character of the class. -/
theorem any_of_prefix_drop {word : Line} (hclass : ∀ c ∈ word, p c = true)
    (h : word <+: text.drop start) (column : Nat) (hstart : start ≤ column)
    (hstop : column < start + word.length) : (text[column]?).any p = true := by
  obtain ⟨offset, rfl⟩ := Nat.exists_eq_add_of_le hstart
  have hlt : offset < word.length := Nat.lt_of_add_lt_add_left hstop
  rw [← List.getElem?_drop, List.prefix_iff_getElem?.mp h offset hlt]
  exact hclass _ (List.getElem_mem hlt)

/-- A word of characters of a class is the text of a run exactly if it stands there and no
character of the class stands directly before it or after it. -/
theorem isRun_word_iff {word : Line} (hword : word ≠ []) (hclass : ∀ c ∈ word, p c = true) :
    IsRun p text start stop ∧ slice text start stop = word ↔
      stop = start + word.length ∧ word <+: text.drop start ∧
        (characterBefore none text start).any p = false ∧ (text[stop]?).any p = false := by
  constructor
  · rintro ⟨hrun, rfl⟩
    exact ⟨hrun.stop_eq, slice_prefix_drop .., hrun.before, hrun.after⟩
  · rintro ⟨rfl, hprefix, hbefore, hafter⟩
    have hnonempty := Nat.lt_add_of_pos_right (n := start) (List.length_pos_iff.mpr hword)
    exact ⟨⟨hnonempty, any_of_prefix_drop hclass hprefix, hbefore, hafter⟩,
      slice_of_prefix_drop hprefix⟩

end Text

namespace Range

open Text

/-- A range is a word of some lines: it is a run of word characters of one line, and the word
is what stands there. -/
def IsWord (r : Range) (lines : List Line) (word : Line) : Prop :=
  r.start.line = r.stop.line ∧ ∃ line, lines[r.start.line]? = some line ∧
    IsRun isWordChar line r.start.character r.stop.character ∧
      slice line r.start.character r.stop.character = word

/-- A cursor is in front of a character of a range on one line. -/
structure Holds (r : Range) (cursor : Cursor) : Prop where
  line : cursor.line = r.start.line
  start : (r.start.character : Int) ≤ cursor.character
  stop : cursor.character < r.stop.character

variable {lines : List Line} {word : Line} {range : Range}

theorem isWord_iff : range.IsWord lines word ↔
    ∃ (number : Nat) (line : Line) (start stop : Nat), lines[number]? = some line ∧
      (IsRun isWordChar line start stop ∧ slice line start stop = word) ∧
        range = .onLine number start stop := by
  constructor
  · obtain ⟨⟨number, start⟩, number', stop⟩ := range
    rintro ⟨heq, line, hline, hword⟩
    cases heq
    exact ⟨number, line, start, stop, hline, hword, rfl⟩
  · rintro ⟨number, line, start, stop, hline, hword, rfl⟩
    exact ⟨rfl, line, hline, hword⟩

theorem IsWord.ne_nil (h : range.IsWord lines word) : word ≠ [] := by
  obtain ⟨-, line, -, hrun, rfl⟩ := h
  exact hrun.slice_ne_nil

theorem IsWord.isWordChar_of_mem (h : range.IsWord lines word) :
    ∀ c ∈ word, isWordChar c = true := by
  obtain ⟨-, line, -, hrun, rfl⟩ := h
  exact fun c => hrun.of_mem_slice

end Range

namespace Text

/-- The identifier at a cursor is the word that holds the cursor, where that starts like an
identifier. -/
theorem identifierAt?_eq_some_iff {lines : List Line} {cursor : Cursor} {word : Line} :
    identifierAt? lines cursor = some word ↔
      word.head?.any isIdentifierStart = true ∧
        ∃ range : Range, range.IsWord lines word ∧ range.Holds cursor := by
  rw [identifierAt?]
  constructor
  · intro h
    split at h
    · cases h
    · next line column hlocate =>
        obtain ⟨number, rfl, hline, -⟩ := locate?_eq_some_iff.mp hlocate
        split at h
        · next hclass =>
            simp only [Option.ite_none_right_eq_some, Option.some.injEq] at h
            obtain ⟨hhead, rfl⟩ := h
            obtain ⟨c, hc, hp⟩ := (Option.any_eq_true ..).mp hclass
            exact ⟨hhead, .onLine number (runStart isWordChar line column)
                (runStop isWordChar line column),
              ⟨rfl, line, hline, isRun_scans hclass, rfl⟩,
              ⟨rfl, Int.ofNat_le.mpr (runStart_le ..), Int.ofNat_lt.mpr (lt_runStop hc hp)⟩⟩
        · cases h
  · rintro ⟨hhead, range, hword, hholds⟩
    obtain ⟨number, line, start, stop, hline, ⟨hrun, rfl⟩, rfl⟩ := Range.isWord_iff.mp hword
    obtain ⟨cursorLine, character⟩ := cursor
    obtain ⟨rfl, hstart, hstop⟩ := hholds
    obtain ⟨column, rfl⟩ := Int.eq_ofNat_of_zero_le (Int.le_trans (Int.natCast_nonneg _) hstart)
    replace hstart := Int.ofNat_le.mp hstart
    replace hstop := Int.ofNat_lt.mp hstop
    have hlength := Nat.le_of_lt (Nat.lt_of_lt_of_le hstop hrun.stop_le_length)
    have hclass := hrun.inside column hstart hstop
    have hlocate : locate? lines ⟨number, column⟩ = some (line, column) :=
      locate?_eq_some_iff.mpr ⟨number, rfl, hline, hlength⟩
    obtain ⟨hfirst, hlast⟩ := hrun.scans_eq hstart hstop
    simp only [Range.onLine, hlocate, hclass, hfirst, hlast, hhead, if_true]

end Text

end LanguageServer
