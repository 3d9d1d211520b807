/-
# Lines of a text

The lines of a text have no line feed in them, and lines that are joined are read back
as they were, up to an empty last line.
-/

import LanguageServer.Text.Lines
import Mathlib.Data.List.Basic

namespace LanguageServer.Text

theorem pieces_ne_nil (separator : CodePoint) (text : List CodePoint) :
    pieces separator text ≠ [] := by
  cases text with
  | nil => exact List.cons_ne_nil _ _
  | cons c rest =>
      rw [pieces]
      split
      · exact List.cons_ne_nil _ _
      · split <;> exact List.cons_ne_nil _ _

theorem pieces_cons_of_ne {separator c : CodePoint} (h : c ≠ separator) (rest : List CodePoint) :
    ∃ piece more, pieces separator rest = piece :: more ∧
      pieces separator (c :: rest) = (c :: piece) :: more := by
  obtain ⟨piece, more, hrest⟩ := List.exists_cons_of_ne_nil (pieces_ne_nil separator rest)
  exact ⟨piece, more, hrest, by rw [pieces, if_neg h, hrest]⟩

/-- A separator is in none of the pieces, and what is in them is in the text. -/
theorem mem_of_mem_pieces {separator c : CodePoint} {text piece : List CodePoint}
    (hpiece : piece ∈ pieces separator text) (h : c ∈ piece) : c ∈ text ∧ c ≠ separator := by
  induction text generalizing piece with
  | nil =>
      rw [pieces, List.mem_singleton] at hpiece
      rw [hpiece] at h
      cases h
  | cons d rest ih =>
      by_cases hd : d = separator
      · rw [pieces, if_pos hd] at hpiece
        rcases List.mem_cons.mp hpiece with rfl | hlater
        · cases h
        · exact ⟨List.mem_cons_of_mem _ (ih hlater h).1, (ih hlater h).2⟩
      · obtain ⟨first, more, hrest, hpieces⟩ := pieces_cons_of_ne hd rest
        rw [hpieces] at hpiece
        rcases List.mem_cons.mp hpiece with rfl | hlater
        · rcases List.mem_cons.mp h with rfl | hfirst
          · exact ⟨List.mem_cons_self, hd⟩
          · have hmem := ih (hrest ▸ List.mem_cons_self) hfirst
            exact ⟨List.mem_cons_of_mem _ hmem.1, hmem.2⟩
        · have hmem := ih (hrest ▸ List.mem_cons_of_mem _ hlater) h
          exact ⟨List.mem_cons_of_mem _ hmem.1, hmem.2⟩

theorem pieces_of_not_mem {separator : CodePoint} {text : List CodePoint} (h : separator ∉ text) :
    pieces separator text = [text] := by
  induction text with
  | nil => rfl
  | cons c rest ih =>
      rw [List.mem_cons, not_or] at h
      rw [pieces, if_neg (Ne.symm h.1), ih h.2]

theorem pieces_append_separator {separator : CodePoint} {text : List CodePoint}
    (h : separator ∉ text) (rest : List CodePoint) :
    pieces separator (text ++ separator :: rest) = text :: pieces separator rest := by
  induction text with
  | nil => rw [List.nil_append, pieces, if_pos rfl]
  | cons c more ih =>
      rw [List.mem_cons, not_or] at h
      rw [List.cons_append, pieces, if_neg (Ne.symm h.1), ih h.2]

theorem joinLines_singleton (line : Line) : joinLines [line] = line :=
  List.intercalate_singleton

theorem joinLines_cons_cons (line next : Line) (rest : List Line) :
    joinLines (line :: next :: rest) = line ++ .char '\n' :: joinLines (next :: rest) := by
  rw [joinLines, List.intercalate_cons_cons, List.append_assoc, List.singleton_append, joinLines]

/-- Lines that are joined are the pieces between the line feeds. -/
theorem pieces_joinLines {parts : List Line} (hne : parts ≠ [])
    (h : ∀ line ∈ parts, .char '\n' ∉ line) : pieces (.char '\n') (joinLines parts) = parts := by
  induction parts with
  | nil => exact absurd rfl hne
  | cons line rest ih =>
      have hline := h line List.mem_cons_self
      cases rest with
      | nil =>
          rw [joinLines_singleton]
          exact pieces_of_not_mem hline
      | cons next rest =>
          rw [joinLines_cons_cons, pieces_append_separator hline]
          exact congrArg (line :: ·) (ih (List.cons_ne_nil _ _) fun other hother =>
            h other (List.mem_cons_of_mem _ hother))

/-- The pieces between the line feeds make up the text. -/
theorem joinLines_pieces (text : List CodePoint) : joinLines (pieces (.char '\n') text) = text := by
  induction text with
  | nil => rfl
  | cons c rest ih =>
      obtain ⟨piece, more, hrest⟩ := List.exists_cons_of_ne_nil (pieces_ne_nil '\n' rest)
      rw [pieces]
      split
      · next hfeed => rw [hrest, joinLines_cons_cons, ← hrest, ih, hfeed, List.nil_append]
      · rw [hrest] at ih ⊢
        rw [← ih]
        cases more with
        | nil => rw [joinLines_singleton, joinLines_singleton]
        | cons next more => rw [joinLines_cons_cons, joinLines_cons_cons, List.cons_append]

/-- Each of the lines that are joined is a part of the text. -/
theorem infix_joinLines {parts : List Line} {line : Line} (h : line ∈ parts) :
    line <:+: joinLines parts := by
  induction parts with
  | nil => cases h
  | cons first rest ih =>
      cases rest with
      | nil =>
          have hline : line = joinLines [first] :=
            (List.mem_singleton.mp h).trans (joinLines_singleton first).symm
          exact hline ▸ List.infix_rfl
      | cons next rest =>
          rw [joinLines_cons_cons]
          rcases List.mem_cons.mp h with rfl | hlater
          · exact (List.prefix_append _ _).isInfix
          · exact (ih hlater).trans ((List.suffix_cons _ _).trans (List.suffix_append _ _)).isInfix

/-- Lines that are joined are read back, but for an empty last one and the returns at
their ends. -/
theorem splitLines_joinLines {parts : List Line} (h : ∀ line ∈ parts, .char '\n' ∉ line) :
    splitLines (joinLines parts) = (dropEmptyLast parts).map dropReturn := by
  cases parts with
  | nil => rfl
  | cons line rest => rw [splitLines, pieces_joinLines (List.cons_ne_nil _ _) h]

theorem dropReturn_of_getLast? {line : Line} (h : line.getLast? ≠ some (.char '\r')) :
    dropReturn line = line := by
  rw [dropReturn, if_neg h]

theorem dropReturn_concat (line : Line) : dropReturn (line ++ [.char '\r']) = line := by
  rw [dropReturn, if_pos List.getLast?_concat, List.dropLast_concat]

theorem eq_or_eq_concat_of_dropReturn (line : Line) :
    dropReturn line = line ∨ line = dropReturn line ++ [.char '\r'] := by
  by_cases h : line.getLast? = some (.char '\r')
  · obtain ⟨front, rfl⟩ := List.getLast?_eq_some_iff.mp h
    exact Or.inr (by rw [dropReturn_concat])
  · exact Or.inl (dropReturn_of_getLast? h)

theorem isPrefix_dropReturn (line : Line) : dropReturn line <+: line := by
  rw [dropReturn]
  split
  · exact List.dropLast_prefix line
  · exact List.prefix_rfl

theorem mem_of_mem_dropReturn {line : Line} {c : CodePoint} (h : c ∈ dropReturn line) : c ∈ line :=
  (isPrefix_dropReturn line).mem h

theorem mem_of_mem_dropEmptyLast {parts : List Line} {line : Line}
    (h : line ∈ dropEmptyLast parts) : line ∈ parts := by
  rw [dropEmptyLast] at h
  split at h
  · exact (List.dropLast_sublist _).mem h
  · exact h

/-- An empty last line is left out before each line is changed or afterwards, but for one that
has become empty. -/
theorem map_dropEmptyLast {f : Line → Line} (hempty : f [] = []) (parts : List Line) :
    (dropEmptyLast parts).map f = dropEmptyLast (parts.map f) ∨
      (dropEmptyLast parts).map f = dropEmptyLast (parts.map f) ++ [[]] := by
  by_cases hlast : (parts.map f).getLast? = some []
  · obtain ⟨front, hfront⟩ := List.getLast?_eq_some_iff.mp hlast
    rw [dropEmptyLast, dropEmptyLast, if_pos hlast]
    split
    · exact Or.inl List.map_dropLast
    · exact Or.inr (by rw [hfront, List.dropLast_concat])
  · have hkept : parts.getLast? ≠ some [] := fun h => hlast (by
      rw [List.getLast?_map, h, Option.map_some, hempty])
    exact Or.inl (by rw [dropEmptyLast, dropEmptyLast, if_neg hlast, if_neg hkept])

theorem dropReturn_of_not_mem {line : Line} (h : .char '\r' ∉ line) : dropReturn line = line :=
  dropReturn_of_getLast? fun hlast => h (List.mem_of_getLast? hlast)

/-- What is on a line of a text is in the text, and no line feed. -/
theorem mem_of_mem_lines {text : Text} {line : Line} {c : CodePoint} (hline : line ∈ lines text)
    (h : c ∈ line) : c ∈ text.toList ∧ c ≠ '\n' := by
  obtain ⟨piece, hpiece, rfl⟩ := List.mem_map.mp hline
  exact mem_of_mem_pieces (mem_of_mem_dropEmptyLast hpiece) (mem_of_mem_dropReturn h)

/-- Each piece is a line with its end, but for an empty piece at the end. -/
theorem getElem?_lines_of_piece {text : Text} {number : Nat} {piece : Line}
    (h : (pieces (.char '\n') text.toList)[number]? = some piece) :
    (lines text)[number]? = some (dropReturn piece) ∨
      (lines text)[number]? = none ∧ piece = [] := by
  rw [lines, splitLines, List.getElem?_map, dropEmptyLast]
  split
  · next hlast =>
      rw [List.getElem?_dropLast]
      split
      · exact Or.inl (by rw [h]; rfl)
      · next hge =>
          have hlt := (List.getElem?_eq_some_iff.mp h).1
          have hnumber : number = (pieces (.char '\n') text.toList).length - 1 := by omega
          rw [List.getLast?_eq_getElem?, ← hnumber, h] at hlast
          exact Or.inr ⟨rfl, Option.some.inj hlast⟩
  · exact Or.inl (by rw [h]; rfl)

/-- Lines without returns that are joined are read back, but for an empty last one. -/
theorem lines_joinLines {parts : List Line}
    (h : ∀ line ∈ parts, .char '\n' ∉ line ∧ .char '\r' ∉ line) :
    lines (Text.ofList (joinLines parts)) = dropEmptyLast parts := by
  rw [lines, splitLines_joinLines fun line hline => (h line hline).1]
  refine (List.map_congr_left fun line hline => ?_).trans (List.map_id _)
  exact dropReturn_of_not_mem (h line (mem_of_mem_dropEmptyLast hline)).2

theorem pieces_ended {parts : List Line} (h : ∀ part ∈ parts, .char '\n' ∉ part) :
    pieces (.char '\n') (parts.flatMap fun part => part ++ [.char '\n']) = parts ++ [[]] := by
  induction parts with
  | nil => rfl
  | cons part rest ih =>
      rw [List.flatMap_cons, List.append_assoc, List.singleton_append,
        pieces_append_separator (h part List.mem_cons_self),
        ih fun other hother => h other (List.mem_cons_of_mem _ hother), List.cons_append]

/-- Where every line is ended by a line feed, all of them are read back, empty ones at the
end as well. -/
theorem splitLines_ended {parts : List Line} (h : ∀ part ∈ parts, .char '\n' ∉ part) :
    splitLines (parts.flatMap fun part => part ++ [.char '\n']) = parts.map dropReturn := by
  rw [splitLines, pieces_ended h, dropEmptyLast, if_pos List.getLast?_concat, List.dropLast_concat]

/-- Lines that are joined, with one more line feed behind them, are all ended. -/
theorem joinLines_append_feed {parts : List Line} (h : parts ≠ []) :
    joinLines parts ++ [.char '\n'] = parts.flatMap fun part => part ++ [.char '\n'] := by
  induction parts with
  | nil => exact absurd rfl h
  | cons part rest ih =>
      cases rest with
      | nil => rw [joinLines_singleton, List.flatMap_singleton]
      | cons next rest =>
          rw [joinLines_cons_cons, List.append_assoc, List.cons_append, ih (List.cons_ne_nil _ _)]
          exact List.append_cons ..

end LanguageServer.Text
