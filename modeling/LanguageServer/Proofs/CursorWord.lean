/-
# The word around a cursor

Three scans look at the word around a cursor: back to where it starts, on to where it ends, and
both ways. In front of any character of an identifier they see one and the same run of word
characters: the first finds the part before the cursor, the second the part from the cursor on,
and the third the whole (`Text.scans_agree`).
-/

import LanguageServer.Proofs.WordRun

namespace LanguageServer.Text

/-- What the three scans find at a column of a word that takes up some columns of a line. -/
structure ScannedAt (lines : List Line) (number : Nat) (word : Line) (start stop column : Nat) :
    Prop where
  whole : identifierAt? lines ⟨number, column⟩ = some word
  front : wordUpTo? lines ⟨number, column⟩ =
    if start < column then some (word.take (column - start)) else none
  back : wordFrom? lines ⟨number, column⟩ = some ⟨word.drop (column - start), column, stop⟩

section Scans

variable {lines : List Line} {line word : Line} {number start stop column : Nat}

section Run

variable (hline : lines[number]? = some line) (hrun : IsRun isWordChar line start stop)
  (hstart : start ≤ column) (hstop : column < stop)

include hline hrun hstop

theorem locate?_of_isRun : locate? lines ⟨number, column⟩ = some (line, column) :=
  locate?_eq_some_iff.mpr ⟨number, rfl, hline,
    Nat.le_of_lt (Nat.lt_of_lt_of_le hstop hrun.stop_le_length)⟩

include hstart

/-- The scan back stops where the run starts, and finds nothing if it has begun there. -/
theorem wordUpTo?_of_isRun :
    wordUpTo? lines ⟨number, column⟩ =
      if start < column then some (slice line start column) else none := by
  have hempty : (slice line start column).isEmpty = true ↔ ¬start < column := by
    have hlength := Nat.lt_of_lt_of_le hstop hrun.stop_le_length
    rw [List.isEmpty_iff_length_eq_zero, length_slice (Nat.le_of_lt hlength)]
    omega
  simp only [wordUpTo?, locate?_of_isRun hline hrun hstop, (hrun.scans_eq hstart hstop).1, hempty,
    ite_not]

theorem wordFrom?_of_isRun :
    wordFrom? lines ⟨number, column⟩ = some ⟨slice line column stop, column, stop⟩ := by
  simp only [wordFrom?, locate?_of_isRun hline hrun hstop, (hrun.scans_eq hstart hstop).2,
    Option.map_some]

/-- The scans find the parts of an identifier at each of its columns. -/
theorem scannedAt_of_isRun (hhead : (slice line start stop).head?.any isIdentifierStart = true) :
    ScannedAt lines number (slice line start stop) start stop column where
  whole := identifierAt?_eq_some_iff.mpr ⟨hhead, .onLine number start stop,
    ⟨rfl, line, hline, hrun, rfl⟩, rfl, Int.ofNat_le.mpr hstart, Int.ofNat_lt.mpr hstop⟩
  front := by rw [take_slice (Nat.le_of_lt hstop), wordUpTo?_of_isRun hline hrun hstart hstop]
  back := by rw [drop_slice hstart, wordFrom?_of_isRun hline hrun hstart hstop]

end Run

namespace ScannedAt

theorem getD_front (h : ScannedAt lines number word start stop column) :
    (wordUpTo? lines ⟨number, column⟩).getD [] = word.take (column - start) := by
  rw [h.front]
  split
  · rfl
  · next hstart =>
      rw [Nat.sub_eq_zero_of_le (Nat.not_lt.mp hstart), List.take_zero]
      rfl

/-- The part that is found before a column reaches back to the start of the word. -/
theorem length_front (h : ScannedAt lines number word start stop column)
    (hstart : start ≤ column) (hword : column ≤ start + word.length) :
    start + ((wordUpTo? lines ⟨number, column⟩).getD []).length = column := by
  rw [h.getD_front, List.length_take]
  omega

end ScannedAt

end Scans

/-- Where there is an identifier at a cursor, the scans agree on it. It is what the scan back
finds before the cursor, if anything, followed by what the scan on finds. It takes up the run of
word characters that holds the cursor, from where the first of these parts starts up to where the
second ends. And at each column of the run the scans find this identifier, its part before the
column and its part from the column on. -/
theorem scans_agree {text : Text} {cursor : Cursor} {identifier : Line}
    (h : identifierAt? (lines text) cursor = some identifier) :
    ∃ (number start column : Nat) (typed : Line) (tail : Word),
      cursor = ⟨number, column⟩ ∧
      (wordUpTo? (lines text) cursor).getD [] = typed ∧
      wordFrom? (lines text) cursor = some tail ∧
      identifier = typed ++ tail.text ∧
      start + typed.length = column ∧ column < tail.stop ∧
      (Range.onLine number start tail.stop).IsWord (lines text) identifier ∧
      ∀ column', start ≤ column' → column' < tail.stop →
        ScannedAt (lines text) number identifier start tail.stop column' := by
  obtain ⟨hhead, range, hword, hholds⟩ := identifierAt?_eq_some_iff.mp h
  obtain ⟨number, line, start, stop, hline, ⟨hrun, rfl⟩, rfl⟩ := Range.isWord_iff.mp hword
  obtain ⟨cursorLine, character⟩ := cursor
  obtain ⟨rfl, hstart, hstop⟩ := hholds
  obtain ⟨column, rfl⟩ := Int.eq_ofNat_of_zero_le (Int.le_trans (Int.natCast_nonneg _) hstart)
  replace hstart : start ≤ column := Int.ofNat_le.mp hstart
  replace hstop : column < stop := Int.ofNat_lt.mp hstop
  have hhere := scannedAt_of_isRun hline hrun hstart hstop hhead
  have hlength : column ≤ start + (slice line start stop).length :=
    hrun.stop_eq ▸ Nat.le_of_lt hstop
  have hparts : slice line start stop = (wordUpTo? (lines text) ⟨number, column⟩).getD [] ++
      (slice line start stop).drop (column - start) := by
    rw [hhere.getD_front, List.take_append_drop]
  exact ⟨number, start, column, _, _, rfl, rfl, hhere.back, hparts,
    hhere.length_front hstart hlength, hstop, hword, fun column' hstart' hstop' =>
      scannedAt_of_isRun hline hrun hstart' hstop' hhead⟩

/-- Inside an identifier the scans find its two parts. They find it again in front of its last
character, and nothing before its first one. -/
theorem scans_of_my_var_agree :
    let lines := lines "let my_var = 1"
    identifierAt? lines ⟨0, 6⟩ = some (toList "my_var") ∧
      wordUpTo? lines ⟨0, 6⟩ = some (toList "my") ∧
      wordFrom? lines ⟨0, 6⟩ = some ⟨toList "_var", 6, 10⟩ ∧
      identifierAt? lines ⟨0, 9⟩ = some (toList "my_var") ∧ wordUpTo? lines ⟨0, 4⟩ = none := by
  intro lines
  have hidentifier : identifierAt? lines ⟨0, 6⟩ = some (toList "my_var") := by decide +kernel
  have hfront : wordUpTo? lines ⟨0, 6⟩ = some (toList "my") := by decide +kernel
  have hback : wordFrom? lines ⟨0, 6⟩ = some ⟨toList "_var", 6, 10⟩ := by decide +kernel
  obtain ⟨number, start, column, typed, tail, hcursor, htyped, htail, -, hstart, -, -, hscans⟩ :=
    scans_agree hidentifier
  obtain rfl : toList "my" = typed := (congrArg (Option.getD · []) hfront).symm.trans htyped
  obtain rfl : ⟨toList "_var", 6, 10⟩ = tail := Option.some.inj (hback.symm.trans htail)
  obtain ⟨hnumber, hcolumn⟩ := Cursor.mk.inj hcursor
  obtain rfl : number = 0 := (Int.ofNat_inj.mp hnumber).symm
  obtain rfl : column = 6 := (Int.ofNat_inj.mp hcolumn).symm
  obtain rfl : start = 4 := Nat.add_right_cancel hstart
  exact ⟨hidentifier, hfront, hback, (hscans 9 (by decide) (by decide)).whole,
    (hscans 4 (by decide) (by decide)).front⟩

end LanguageServer.Text
