/-
# Selections, read by numbers

The growing selections around a cursor, where each line and each character is taken by
its number. The braces of the block around are looked for on the cursor's line first and
then on the lines above and below.
-/

import LanguageServer.Proofs.ByNumber.Word
import LanguageServer.Proofs.PlacesInside

namespace LanguageServer

open Text

namespace Selection

/-- The characters of a part of a line that starts at a column, each with its place. -/
def placedOnLine (number column : Nat) (text : Line) : List (Position × CodePoint) :=
  (text.zipIdx column).map fun entry => (⟨number, entry.2⟩, entry.1)

/-- The characters of lines, the first of which has a given number. -/
def placedFrom (number : Nat) (lines : List Line) : List (Position × CodePoint) :=
  (lines.zipIdx number).flatMap fun entry => placedOnLine entry.2 0 entry.1

theorem placed_eq (lines : List Line) : placed lines = placedFrom 0 lines := rfl

theorem placedOnLine_append (number column : Nat) (text more : Line) :
    placedOnLine number column (text ++ more) =
      placedOnLine number column text ++ placedOnLine number (column + text.length) more := by
  rw [placedOnLine, List.zipIdx_append, List.map_append, placedOnLine, placedOnLine]

theorem placedFrom_append (number : Nat) (lines more : List Line) :
    placedFrom number (lines ++ more) =
      placedFrom number lines ++ placedFrom (number + lines.length) more := by
  rw [placedFrom, List.zipIdx_append, List.flatMap_append, placedFrom, placedFrom]

theorem placedFrom_cons (number : Nat) (text : Line) (rest : List Line) :
    placedFrom number (text :: rest) =
      placedOnLine number 0 text ++ placedFrom (number + 1) rest := by
  rw [placedFrom, List.zipIdx_cons, List.flatMap_cons, placedFrom]

theorem mem_placedOnLine {number column : Nat} {text : Line} {entry : Position × CodePoint}
    (h : entry ∈ placedOnLine number column text) :
    entry.1.line = number ∧ column ≤ entry.1.character ∧
      entry.1.character < column + text.length := by
  obtain ⟨⟨c, place⟩, hmem, rfl⟩ := List.mem_map.mp h
  have hbounds := List.mem_zipIdx hmem
  exact ⟨rfl, hbounds.1, hbounds.2.1⟩

theorem mem_placedFrom {number : Nat} {lines : List Line} {entry : Position × CodePoint}
    (h : entry ∈ placedFrom number lines) :
    number ≤ entry.1.line ∧ entry.1.line < number + lines.length := by
  obtain ⟨⟨text, line⟩, hmem, hentry⟩ := List.mem_flatMap.mp h
  have hbounds := List.mem_zipIdx hmem
  rw [(mem_placedOnLine hentry).1]
  exact ⟨hbounds.1, hbounds.2.1⟩

section Around

variable {lines : List Line} {text : Line} {number column : Nat}

/-- The characters of a document before a column of a line. -/
def charactersBefore (lines : List Line) (text : Line) (number column : Nat) :
    List (Position × CodePoint) :=
  placedFrom 0 (lines.take number) ++ placedOnLine number 0 (text.take column)

/-- The characters of a document from a column of a line on. -/
def charactersFrom (lines : List Line) (text : Line) (number column : Nat) :
    List (Position × CodePoint) :=
  placedOnLine number column (text.drop column) ++ placedFrom (number + 1) (lines.drop (number + 1))

theorem placed_eq_append (hline : lines[number]? = some text) (hcolumn : column ≤ text.length) :
    placed lines =
      charactersBefore lines text number column ++ charactersFrom lines text number column := by
  have hlt := (List.getElem?_eq_some_iff.mp hline).1
  have hsplit := List.take_append_drop number lines
  rw [drop_of_getElem? hline] at hsplit
  have hcount : (lines.take number).length = number := List.length_take_of_le (Nat.le_of_lt hlt)
  have htext := placedOnLine_append number 0 (text.take column) (text.drop column)
  rw [List.take_append_drop, List.length_take_of_le hcolumn, Nat.zero_add] at htext
  calc
    placed lines = placedFrom 0 (lines.take number ++ text :: lines.drop (number + 1)) := by
      rw [placed_eq, hsplit]
    _ = placedFrom 0 (lines.take number) ++ (placedOnLine number 0 (text.take column) ++
          placedOnLine number column (text.drop column) ++
          placedFrom (number + 1) (lines.drop (number + 1))) := by
      rw [placedFrom_append, hcount, Nat.zero_add, placedFrom_cons, htext]
    _ = _ := by
      simp only [charactersBefore, charactersFrom, List.append_assoc]

theorem before_of_mem_charactersBefore {entry : Position × CodePoint}
    (h : entry ∈ charactersBefore lines text number column) :
    entry.1.before ⟨number, column⟩ = true := by
  simp only [Position.before, Bool.or_eq_true, Bool.and_eq_true, decide_eq_true_eq]
  rcases List.mem_append.mp h with habove | hhere
  · have hbounds := mem_placedFrom habove
    have hcount := List.length_take_le number lines
    omega
  · have hbounds := mem_placedOnLine hhere
    have hcount := List.length_take_le column text
    omega

theorem not_before_of_mem_charactersFrom {entry : Position × CodePoint}
    (h : entry ∈ charactersFrom lines text number column) :
    entry.1.before ⟨number, column⟩ = false := by
  simp only [Position.before, Bool.or_eq_false_iff, Bool.and_eq_false_iff,
    decide_eq_false_iff_not]
  rcases List.mem_append.mp h with hhere | hbelow
  · have hbounds := mem_placedOnLine hhere
    omega
  · have hbounds := mem_placedFrom hbelow
    omega

theorem filter_before (hline : lines[number]? = some text) (hcolumn : column ≤ text.length) :
    (placed lines).filter (fun entry => entry.1.before ⟨number, column⟩) =
      charactersBefore lines text number column := by
  have hbefore : (charactersBefore lines text number column).filter
      (fun entry => entry.1.before ⟨number, column⟩) =
        charactersBefore lines text number column :=
    List.filter_eq_self.mpr fun _ => before_of_mem_charactersBefore
  have hfrom : (charactersFrom lines text number column).filter
      (fun entry => entry.1.before ⟨number, column⟩) = [] :=
    List.filter_eq_nil_iff.mpr fun _ hmem =>
      ne_true_of_eq_false (not_before_of_mem_charactersFrom hmem)
  rw [placed_eq_append hline hcolumn, List.filter_append, hbefore, hfrom, List.append_nil]

theorem filter_not_before (hline : lines[number]? = some text) (hcolumn : column ≤ text.length) :
    (placed lines).filter (fun entry => !entry.1.before ⟨number, column⟩) =
      charactersFrom lines text number column := by
  have hbefore : (charactersBefore lines text number column).filter
      (fun entry => !entry.1.before ⟨number, column⟩) = [] :=
    List.filter_eq_nil_iff.mpr fun _ hmem => by
      rw [before_of_mem_charactersBefore hmem]
      decide
  have hfrom : (charactersFrom lines text number column).filter
      (fun entry => !entry.1.before ⟨number, column⟩) =
        charactersFrom lines text number column :=
    List.filter_eq_self.mpr fun _ hmem => by
      rw [not_before_of_mem_charactersFrom hmem]
      rfl
  rw [placed_eq_append hline hcolumn, List.filter_append, hbefore, hfrom, List.nil_append]

end Around

end Selection

namespace ByNumber

/-- Going back from a column of a line: the nearest opening brace that is not closed, or
the depth at the start of the line. -/
def openingOnLine (text : Line) (number : Nat) (depth : Nat) : Nat → Reading (Nat ⊕ Position)
  | 0 => return .inl depth
  | column + 1 => do
      let c ← itemAt text column
      if c = '\x7d' then openingOnLine text number (depth + 1) column
      else if c = '\x7b' then
        match depth with
        | 0 => return .inr ⟨number, column⟩
        | depth + 1 => openingOnLine text number depth column
      else openingOnLine text number depth column

/-- Going back over the lines above a number. -/
def openingAbove (lines : List Line) (depth : Nat) : Nat → Reading (Option Position)
  | 0 => return none
  | number + 1 => do
      let text ← itemAt lines number
      match ← openingOnLine text number depth text.length with
      | .inr place => return some place
      | .inl depth => openingAbove lines depth number

/-- Going on from a column of a line over a number of characters: the nearest closing
brace that closes nothing opened since, or the depth at the end of the line. -/
def closingOnLine (text : Line) (number : Nat) : Nat → Nat → Nat → Reading (Nat ⊕ Position)
  | 0, depth, _ => return .inl depth
  | left + 1, depth, column => do
      let c ← itemAt text column
      if c = '\x7b' then closingOnLine text number left (depth + 1) (column + 1)
      else if c = '\x7d' then
        match depth with
        | 0 => return .inr ⟨number, column⟩
        | depth + 1 => closingOnLine text number left depth (column + 1)
      else closingOnLine text number left depth (column + 1)

/-- Going on over a number of lines from a number on. -/
def closingBelow (lines : List Line) : Nat → Nat → Nat → Reading (Option Position)
  | 0, _, _ => return none
  | left + 1, depth, number => do
      let text ← itemAt lines number
      match ← closingOnLine text number text.length depth 0 with
      | .inr place => return some place
      | .inl depth => closingBelow lines left depth (number + 1)

/-- What a line says of the characters on it and the ones further back. -/
theorem openingOnLine_eq_ok {text : Line} {column : Nat} (h : column ≤ text.length)
    (number depth : Nat) :
    ∃ found, openingOnLine text number depth column = .ok found ∧
      ∀ further, Selection.openingBrace? depth
          ((Selection.placedOnLine number 0 (text.take column)).reverse ++ further) =
        found.elim (fun depth => Selection.openingBrace? depth further) some := by
  induction column generalizing depth with
  | zero => exact ⟨.inl depth, rfl, fun further => rfl⟩
  | succ column ih =>
      obtain ⟨c, hc⟩ : ∃ c, text[column]? = some c := ⟨_, List.getElem?_eq_getElem h⟩
      have hle := Nat.le_of_succ_le h
      have hsplit : (Selection.placedOnLine number 0 (text.take (column + 1))).reverse =
          (⟨number, column⟩, c) ::
            (Selection.placedOnLine number 0 (text.take column)).reverse := by
        rw [List.take_add_one, hc, Option.toList_some, Selection.placedOnLine_append,
          List.length_take_of_le hle, Nat.zero_add, List.reverse_append]
        rfl
      rw [hsplit]
      unfold openingOnLine
      rw [itemAt_eq_ok hc, ok_bind]
      simp only [List.cons_append, Selection.openingBrace?_cons]
      split
      · exact ih hle (depth + 1)
      · split
        · cases depth with
          | zero => exact ⟨.inr ⟨number, column⟩, rfl, fun further => rfl⟩
          | succ depth => exact ih hle depth
        · exact ih hle depth

theorem openingAbove_eq_ok {lines : List Line} {number : Nat} (h : number ≤ lines.length)
    (depth : Nat) :
    openingAbove lines depth number =
      .ok (Selection.openingBrace? depth
        (Selection.placedFrom 0 (lines.take number)).reverse) := by
  induction number generalizing depth with
  | zero => rfl
  | succ number ih =>
      obtain ⟨text, htext⟩ : ∃ text, lines[number]? = some text :=
        ⟨_, List.getElem?_eq_getElem h⟩
      have hle := Nat.le_of_succ_le h
      have hsplit : (Selection.placedFrom 0 (lines.take (number + 1))).reverse =
          (Selection.placedOnLine number 0 text).reverse ++
            (Selection.placedFrom 0 (lines.take number)).reverse := by
        rw [List.take_add_one, htext, Option.toList_some, Selection.placedFrom_append,
          List.length_take_of_le hle, Nat.zero_add, Selection.placedFrom_cons,
          List.reverse_append]
        simp [Selection.placedFrom]
      obtain ⟨found, hread, hfound⟩ := openingOnLine_eq_ok (Nat.le_refl text.length) number depth
      rw [List.take_length] at hfound
      rw [openingAbove, itemAt_eq_ok htext, ok_bind, hread, ok_bind, hsplit, hfound]
      cases found with
      | inl depth => exact ih hle depth
      | inr place => rfl

/-- What a line says of the characters on it and the ones further on. -/
theorem closingOnLine_eq_ok {text rest : Line} {column : Nat} (h : text.drop column = rest)
    (number depth : Nat) :
    ∃ found, closingOnLine text number rest.length depth column = .ok found ∧
      ∀ further, Selection.closingBrace? depth
          (Selection.placedOnLine number column rest ++ further) =
        found.elim (fun depth => Selection.closingBrace? depth further) some := by
  induction rest generalizing column depth with
  | nil => exact ⟨.inl depth, rfl, fun further => rfl⟩
  | cons c rest ih =>
      have hnext := drop_succ_of_drop h
      have hsplit : Selection.placedOnLine number column (c :: rest) =
          (⟨number, column⟩, c) :: Selection.placedOnLine number (column + 1) rest := rfl
      rw [hsplit, List.length_cons]
      unfold closingOnLine
      rw [itemAt_eq_ok (getElem?_of_drop h), ok_bind]
      simp only [List.cons_append, Selection.closingBrace?_cons]
      split
      · exact ih hnext (depth + 1)
      · split
        · cases depth with
          | zero => exact ⟨.inr ⟨number, column⟩, rfl, fun further => rfl⟩
          | succ depth => exact ih hnext depth
        · exact ih hnext depth

theorem closingBelow_eq_ok {lines rest : List Line} {number : Nat}
    (h : lines.drop number = rest) (depth : Nat) :
    closingBelow lines rest.length depth number =
      .ok (Selection.closingBrace? depth (Selection.placedFrom number rest)) := by
  induction rest generalizing number depth with
  | nil => rfl
  | cons text rest ih =>
      obtain ⟨found, hread, hfound⟩ :=
        closingOnLine_eq_ok (List.drop_zero (l := text)) number depth
      rw [List.length_cons, closingBelow, itemAt_eq_ok (getElem?_of_drop h), ok_bind, hread,
        ok_bind, Selection.placedFrom_cons, hfound]
      cases found with
      | inl depth => exact ih (drop_succ_of_drop h) depth
      | inr place => rfl

/-- The nearest opening brace before a column of a line that is not closed. -/
def opening? (lines : List Line) (number column : Nat) : Reading (Option Position) := do
  let text ← itemAt lines number
  match ← openingOnLine text number 0 column with
  | .inr place => return some place
  | .inl depth => openingAbove lines depth number

/-- The nearest closing brace from a column of a line on that closes nothing opened
since. -/
def closingBehind? (lines : List Line) (number column : Nat) : Reading (Option Position) := do
  let text ← itemAt lines number
  match ← closingOnLine text number (text.length - column) 0 column with
  | .inr place => return some place
  | .inl depth => closingBelow lines (lines.length - (number + 1)) depth (number + 1)

/-- The block around a part of a line. -/
def block? (lines : List Line) (number start stop : Nat) : Reading (Option Range) := do
  match ← opening? lines number start with
  | none => return none
  | some opening =>
      let closing ← closingBehind? lines number stop
      return closing.map fun closing => ⟨opening, ⟨closing.line, closing.character + 1⟩⟩

section Around

variable {lines : List Line} {text : Line} {number column : Nat}

theorem opening?_eq_ok (hline : lines[number]? = some text) (hcolumn : column ≤ text.length) :
    opening? lines number column =
      .ok (Selection.openingBrace? 0
        (Selection.charactersBefore lines text number column).reverse) := by
  have hle := Nat.le_of_lt (List.getElem?_eq_some_iff.mp hline).1
  obtain ⟨found, hread, hfound⟩ := openingOnLine_eq_ok hcolumn number 0
  rw [opening?, itemAt_eq_ok hline, ok_bind, hread, ok_bind, Selection.charactersBefore,
    List.reverse_append, hfound]
  cases found with
  | inl depth => exact openingAbove_eq_ok hle depth
  | inr place => rfl

theorem closingBehind?_eq_ok (hline : lines[number]? = some text) :
    closingBehind? lines number column =
      .ok (Selection.closingBrace? 0 (Selection.charactersFrom lines text number column)) := by
  obtain ⟨found, hread, hfound⟩ := closingOnLine_eq_ok (Eq.refl (text.drop column)) number 0
  rw [List.length_drop] at hread
  rw [closingBehind?, itemAt_eq_ok hline, ok_bind, hread, ok_bind, Selection.charactersFrom,
    hfound]
  cases found with
  | inl depth =>
      have hbelow := closingBelow_eq_ok (Eq.refl (lines.drop (number + 1))) depth
      rw [List.length_drop] at hbelow
      exact hbelow
  | inr place => rfl

theorem block?_eq_ok {start stop : Nat} (hline : lines[number]? = some text)
    (hstart : start ≤ text.length) (hstop : stop ≤ text.length) :
    block? lines number start stop =
      .ok (Selection.block? (Selection.placed lines) number start stop) := by
  have hfront := Selection.filter_before hline hstart
  have hback := Selection.filter_not_before hline hstop
  rw [block?, opening?_eq_ok hline hstart, ok_bind, closingBehind?_eq_ok hline]
  simp only [Selection.block?, hfront, hback]
  cases Selection.openingBrace? 0
      (Selection.charactersBefore lines text number start).reverse with
  | none => rfl
  | some opening =>
      cases Selection.closingBrace? 0 (Selection.charactersFrom lines text number stop) <;> rfl

end Around

/-- The column where the statement around a column starts. -/
def statementStart (text : Line) (column : Nat) : Reading Nat :=
  let first := runStart (· ≠ ';') text column
  forward isBlank text (column - first) first

theorem statementStart_eq_ok {text : Line} {column : Nat} (h : column ≤ text.length) :
    statementStart text column = .ok (Selection.statementStart text column) := by
  have hread := forward_eq_ok isBlank
    (slice_prefix_drop text (runStart (· ≠ ';') text column) column)
  rw [length_slice h] at hread
  simp only [statementStart, hread, Selection.statementStart]

/-- The chain of selections for a cursor, if it is in the document. -/
def chainAt? (lines : List Line) (cursor : Cursor) : Reading (Option (List Range)) := do
  match ← locate? lines cursor with
  | none => return none
  | some (text, column) =>
      let number := cursor.line.toNat
      let start ← backward isNameChar text column
      let stop ← forward isNameChar text (text.length - column) column
      let first ← statementStart text start
      let last := Selection.statementStop text stop
      let block ← block? lines number first last
      let word := if start < stop then [Range.onLine number start stop] else []
      let parts := word ++ Range.onLine number first last :: block.toList
      return some (parts.foldr
        (fun part outer => if outer.head? = some part then outer else part :: outer) [])

theorem chainAt?_eq_ok (lines : List Line) (cursor : Cursor) :
    chainAt? lines cursor =
      .ok (Selection.chainAt? lines (Selection.placed lines) cursor) := by
  rw [chainAt?, locate?_eq_ok, ok_bind, Selection.chainAt?]
  cases hlocate : Text.locate? lines cursor with
  | none => rfl
  | some place =>
      obtain ⟨text, column⟩ := place
      obtain ⟨hline, hcolumn⟩ := locate?_eq_some hlocate
      have hstart := (runStart_le isNameChar text column).trans hcolumn
      have hstop := runStop_le_length isNameChar hcolumn
      have hfirst :=
        (Selection.statementStart_le text (runStart isNameChar text column)).trans hstart
      have hlast := Selection.statementStop_le_length hstop
      simp only [backward_eq_runStart _ hcolumn, forward_eq_runStop, statementStart_eq_ok hstart,
        block?_eq_ok hline hfirst hlast, ok_bind]
      rfl

/-- The chains for the places that are in the document. -/
def selections (text : Text) (positions : List Json) : Reading (List (List Range)) := do
  let all ← lines text
  gather (fun position => do
    match Cursor.ofJson? position with
    | none => return []
    | some cursor => return (← chainAt? all cursor).toList) positions

theorem selections_eq_ok (text : Text) (positions : List Json) :
    selections text positions = .ok (Selection.ofText text positions) := by
  simp only [selections, lines_eq_ok, ok_bind, Selection.ofText]
  rw [List.filterMap_eq_flatMap_toList]
  refine gather_eq_ok fun position _ => ?_
  cases Cursor.ofJson? position with
  | none => rfl
  | some cursor =>
      simp only [chainAt?_eq_ok, ok_bind]
      rfl

end ByNumber

end LanguageServer
