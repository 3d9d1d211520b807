/-
# Columns of a line

Where the scans of a line stop, and what they have found between their columns.
-/

import LanguageServer.Document.Declaration

namespace LanguageServer

open Text

namespace Text

section Items

variable {α : Type}

theorem getElem?_of_drop {items rest : List α} {number : Nat} {item : α}
    (h : items.drop number = item :: rest) : items[number]? = some item := by
  rw [← List.head?_drop, h, List.head?_cons]

theorem drop_succ_of_drop {items rest : List α} {number : Nat} {item : α}
    (h : items.drop number = item :: rest) : items.drop (number + 1) = rest := by
  rw [← List.drop_drop, h, List.drop_one, List.tail_cons]

theorem drop_of_getElem? {items : List α} {number : Nat} {item : α}
    (h : items[number]? = some item) : items.drop number = item :: items.drop (number + 1) := by
  obtain ⟨hlt, hget⟩ := List.getElem?_eq_some_iff.mp h
  rw [List.drop_eq_getElem_cons hlt, hget]

/-- The items before a number, the nearest one first. -/
theorem reverse_take_succ {items : List α} {number : Nat} {item : α}
    (h : items[number]? = some item) :
    (items.take (number + 1)).reverse = item :: (items.take number).reverse := by
  rw [List.take_add_one, h, Option.toList_some, List.reverse_append, List.reverse_singleton,
    List.singleton_append]

end Items

/-- A part of a line is also what the line has from its first column on. -/
theorem slice_eq_take_drop (text : List CodePoint) (start stop : Nat) :
    slice text start stop = (text.drop start).take (stop - start) :=
  List.drop_take ..

theorem slice_prefix_drop (text : List CodePoint) (start stop : Nat) :
    slice text start stop <+: text.drop start := by
  rw [slice_eq_take_drop]
  exact List.take_prefix ..

theorem length_slice {text : List CodePoint} {start stop : Nat} (h : stop ≤ text.length) :
    (slice text start stop).length = stop - start := by
  rw [slice, List.length_drop, List.length_take_of_le h]

theorem take_slice {text : List CodePoint} {start stop column : Nat} (h : column ≤ stop) :
    (slice text start stop).take (column - start) = slice text start column := by
  rw [slice_eq_take_drop, slice_eq_take_drop, List.take_take,
    Nat.min_eq_left (Nat.sub_le_sub_right h start)]

theorem drop_slice {text : List CodePoint} {start stop column : Nat} (h : start ≤ column) :
    (slice text start stop).drop (column - start) = slice text column stop := by
  rw [slice, slice, List.drop_drop, Nat.add_sub_cancel' h]

theorem slice_self (text : List CodePoint) (column : Nat) : slice text column column = [] := by
  rw [slice_eq_take_drop, Nat.sub_self, List.take_zero]

theorem slice_succ {text : List CodePoint} {start column : Nat} {c : CodePoint} (h : start ≤ column)
    (hc : text[column]? = some c) :
    slice text start (column + 1) = slice text start column ++ [c] := by
  have hlength : column < text.length := (List.getElem?_eq_some_iff.mp hc).1
  rw [slice, slice, List.take_add_one, hc, Option.toList_some, List.drop_append_of_le_length]
  rwa [List.length_take_of_le (Nat.le_of_lt hlength)]

/-- The first character of a part of a line is the one at its first column. -/
theorem head?_slice {text : List CodePoint} {start stop : Nat} (h : start < stop) :
    (slice text start stop).head? = text[start]? := by
  rw [slice, List.head?_drop, List.getElem?_take_of_lt h]

/-- The part of a line that has the length of a word which stands there is the word. -/
theorem slice_of_prefix_drop {word text : List CodePoint} {start : Nat}
    (h : word <+: text.drop start) :
    slice text start (start + word.length) = word := by
  rw [slice_eq_take_drop, Nat.add_sub_cancel_left]
  exact (List.prefix_iff_eq_take.mp h).symm

/-- A word that stands at a column of a line ends on the line. -/
theorem end_le_of_prefix_drop {word text : List CodePoint} {start : Nat}
    (hstart : start ≤ text.length) (h : word <+: text.drop start) :
    start + word.length ≤ text.length := by
  have hlength := h.length_le
  rw [List.length_drop] at hlength
  omega

/-- A word of some characters that stands at a column of a line starts on the line. -/
theorem lt_of_prefix_drop {word text : List CodePoint} {start : Nat} (hword : word ≠ [])
    (h : word <+: text.drop start) : start < text.length := by
  have hpos := Nat.lt_of_lt_of_le (List.length_pos_iff.mpr hword) h.length_le
  rw [List.length_drop] at hpos
  exact Nat.lt_of_sub_pos hpos

/-- A word stands where it is found. -/
theorem prefix_of_find? {word text : List CodePoint} {column : Nat}
    (h : find? word text = some column) :
    column ≤ text.length ∧ word <+: text.drop column := by
  induction text generalizing column with
  | nil =>
      rw [find?] at h
      split at h
      · next hempty =>
          cases h
          rw [List.isEmpty_iff.mp hempty]
          exact ⟨Nat.le_refl _, List.nil_prefix⟩
      · cases h
  | cons c rest ih =>
      rw [find?] at h
      split at h
      · next hprefix =>
          cases h
          exact ⟨Nat.zero_le _, List.isPrefixOf_iff_prefix.mp hprefix⟩
      · obtain ⟨before, hbefore, rfl⟩ := Option.map_eq_some_iff.mp h
        obtain ⟨hle, hprefix⟩ := ih hbefore
        exact ⟨Nat.succ_le_succ hle, hprefix⟩

theorem end_le_of_find? {word text : List CodePoint} {column : Nat}
    (h : find? word text = some column) : column + word.length ≤ text.length :=
  end_le_of_prefix_drop (prefix_of_find? h).1 (prefix_of_find? h).2

/-- A text contains a word if the word is a part of it. -/
theorem contains_iff_isInfix {word text : List CodePoint} :
    contains word text = true ↔ word <:+: text := by
  constructor
  · intro h
    obtain ⟨column, hcolumn⟩ := Option.isSome_iff_exists.mp h
    exact (prefix_of_find? hcolumn).2.isInfix.trans (List.drop_suffix column text).isInfix
  · intro h
    rw [contains]
    induction text with
    | nil =>
        rw [List.infix_nil.mp h]
        rfl
    | cons c rest ih =>
        rw [find?]
        split
        · rfl
        · next hprefix =>
            rw [List.isPrefixOf_iff_prefix] at hprefix
            rw [Option.isSome_map]
            exact ih ((List.infix_cons_iff.mp h).resolve_left hprefix)

theorem runStart_le (p : CodePoint → Bool) (line : Line) (column : Nat) :
    runStart p line column ≤ column :=
  Nat.sub_le ..

theorem le_runStop (p : CodePoint → Bool) (line : Line) (column : Nat) :
    column ≤ runStop p line column :=
  Nat.le_add_right ..

theorem runStop_le_length (p : CodePoint → Bool) {line : Line} {column : Nat}
    (h : column ≤ line.length) : runStop p line column ≤ line.length := by
  have hlength := (List.takeWhile_prefix p (l := line.drop column)).length_le
  rw [List.length_drop] at hlength
  rw [runStop]
  omega

/-- A run that starts with a character of its class is not empty. -/
theorem lt_runStop {p : CodePoint → Bool} {text : Line} {column : Nat} {c : CodePoint}
    (hc : text[column]? = some c) (hp : p c = true) : column < runStop p text column := by
  obtain ⟨hlt, hget⟩ := List.getElem?_eq_some_iff.mp hc
  rw [runStop, List.drop_eq_getElem_cons hlt, hget, List.takeWhile_cons, if_pos hp,
    List.length_cons]
  omega

/-- A cursor is located in two steps: its line, and its column on that line. -/
theorem locate?_eq_bind (lines : List Line) (cursor : Cursor) :
    locate? lines cursor =
      (if cursor.line < 0 then none else lines[cursor.line.toNat]?).bind fun line =>
        if cursor.character < 0 ∨ (line.length : Int) < cursor.character then none
        else some (line, cursor.character.toNat) := by
  rw [locate?]
  by_cases hline : cursor.line < 0
  · rw [if_pos hline, if_pos (Or.inl hline)]
    rfl
  · rw [if_neg hline]
    cases lines[cursor.line.toNat]? with
    | none => simp only [Option.bind_none, ite_self]
    | some line =>
        by_cases hlow : cursor.character < 0
        · simp only [hlow, true_or, or_true, if_true, Option.bind_some]
        · by_cases hhigh : (line.length : Int) < cursor.character
          · simp only [hlow, hhigh, hline, or_self, false_or, if_true, if_false,
              Int.not_le.mpr hhigh, Option.bind_some]
          · simp only [hlow, hhigh, hline, or_self, if_true, if_false, Int.not_lt.mp hhigh,
              Option.bind_some]

/-- A cursor is located on a line of the document, at a column up to its end. -/
theorem locate?_eq_some_iff {lines : List Line} {cursor : Cursor} {line : Line} {column : Nat} :
    locate? lines cursor = some (line, column) ↔
      ∃ number : Nat, cursor = ⟨number, column⟩ ∧ lines[number]? = some line ∧
        column ≤ line.length := by
  rw [locate?_eq_bind]
  constructor
  · intro h
    obtain ⟨found, hfound, hcolumn⟩ := Option.bind_eq_some_iff.mp h
    split at hfound
    · cases hfound
    · split at hcolumn
      · cases hcolumn
      · next hline hcharacter =>
          obtain ⟨rfl, rfl⟩ := Prod.mk.inj (Option.some.inj hcolumn)
          refine ⟨cursor.line.toNat, ?_, hfound, by omega⟩
          rw [Int.toNat_of_nonneg (by omega), Int.toNat_of_nonneg (by omega)]
  · rintro ⟨number, rfl, hline, hcolumn⟩
    have hcharacter : ¬((column : Int) < 0 ∨ (line.length : Int) < column) := by omega
    rw [if_neg (Int.not_lt.mpr (Int.natCast_nonneg number)), Int.toNat_natCast, hline,
      Option.bind_some, if_neg hcharacter, Int.toNat_natCast]

theorem locate?_eq_some {lines : List Line} {cursor : Cursor} {line : Line} {column : Nat}
    (h : locate? lines cursor = some (line, column)) :
    lines[cursor.line.toNat]? = some line ∧ column ≤ line.length := by
  obtain ⟨number, rfl, hline, hcolumn⟩ := locate?_eq_some_iff.mp h
  exact ⟨hline, hcolumn⟩

/-- The character before a column, where the one before the first column is given. -/
def characterBefore (previous : Option CodePoint) (text : Line) : Nat → Option CodePoint
  | 0 => previous
  | column + 1 => text[column]?

/-- The columns where words start, as columns of the line that pass a test: no word
character stands before, and the rest of the line is accepted. -/
theorem wordStarts_eq (accepts : Line → Bool) (previous : Option CodePoint) (column : Nat)
    (text : Line) :
    wordStarts accepts previous column text =
      ((List.range text.length).filter fun offset =>
        !(characterBefore previous text offset).any isWordChar &&
          accepts (text.drop offset)).map (column + ·) := by
  induction text generalizing previous column with
  | nil => rfl
  | cons c rest ih =>
      have hbefore (offset : Nat) :
          characterBefore previous (c :: rest) (offset + 1) =
            characterBefore (some c) rest offset := by
        cases offset <;> rfl
      have hlater : wordStarts accepts (some c) (column + 1) rest =
          (((List.range rest.length).map Nat.succ).filter fun offset =>
            !(characterBefore previous (c :: rest) offset).any isWordChar &&
              accepts ((c :: rest).drop offset)).map (column + ·) := by
        rw [ih, List.filter_map, List.map_map]
        simp only [Function.comp_def, Nat.succ_eq_add_one, hbefore, List.drop_succ_cons,
          Nat.add_assoc, Nat.add_comm 1]
      rw [wordStarts, List.length_cons, List.range_succ_eq_map, List.filter_cons, hlater]
      split
      all_goals
        next hhere =>
          simp only [characterBefore, List.drop_zero, hhere]
          rfl

/-- Words start at the columns of the line before which no word character stands and from
which on the text is accepted. -/
theorem mem_wordStarts_iff {accepts : Line → Bool} {text : Line} {start : Nat} :
    start ∈ wordStarts accepts none 0 text ↔
      start < text.length ∧ (characterBefore none text start).any isWordChar = false ∧
        accepts (text.drop start) = true := by
  rw [wordStarts_eq]
  simp only [Nat.zero_add, List.map_id', List.mem_filter, List.mem_range, Bool.and_eq_true,
    Bool.not_eq_true']

/-- Words start at ascending columns. -/
theorem pairwise_wordStarts (accepts : Line → Bool) (text : Line) :
    (wordStarts accepts none 0 text).Pairwise (· < ·) := by
  rw [wordStarts_eq]
  simp only [Nat.zero_add, List.map_id']
  exact List.pairwise_lt_range.filter _

/-- A word that is asked for at each start ends on the line. -/
theorem end_le_of_mem_wordStarts {accepts : Line → Bool} {word line : Line} {start : Nat}
    (haccepts : ∀ text, accepts text = true → word <+: text)
    (h : start ∈ wordStarts accepts none 0 line) : start + word.length ≤ line.length := by
  obtain ⟨hlt, -, htext⟩ := mem_wordStarts_iff.mp h
  exact end_le_of_prefix_drop (Nat.le_of_lt hlt) (haccepts _ htext)

theorem trimStart_eq_drop (line : Line) :
    trimStart line = line.drop (line.length - (trimStart line).length) := by
  have hsuffix : trimStart line <:+ line := List.dropWhile_suffix isBlank
  exact List.suffix_iff_eq_drop.mp hsuffix

theorem length_trimStart_le (line : Line) : (trimStart line).length ≤ line.length :=
  (List.dropWhile_suffix isBlank).length_le

theorem length_trimEnd_le (line : Line) : (trimEnd line).length ≤ line.length := by
  have hlength := (List.dropWhile_suffix isBlank (l := line.reverse)).length_le
  rw [List.length_reverse] at hlength
  rwa [trimEnd, dropEndWhile, List.length_reverse]

end Text

namespace Declaration

/-- A declared name stands after the keyword. -/
theorem prefix_of_nameAfter? {lead line name : Line} (h : nameAfter? lead line = some name) :
    lead.length ≤ line.length ∧ name <+: line.drop lead.length := by
  simp only [nameAfter?] at h
  split at h
  · next hlead =>
      split at h
      · cases h
      · cases h
        exact ⟨(List.isPrefixOf_iff_prefix.mp hlead).length_le, List.takeWhile_prefix isWordChar⟩
  · cases h

/-- The name of a function stands at its column of the line. -/
theorem prefix_of_function? {line name : Line} (h : function? line = some name) :
    functionColumn line ≤ line.length ∧ name <+: line.drop (functionColumn line) := by
  obtain ⟨hle, hprefix⟩ := prefix_of_nameAfter? h
  have htrim := length_trimStart_le line
  rw [trimStart_eq_drop, List.drop_drop] at hprefix
  exact ⟨by rw [functionColumn]; omega, hprefix⟩

end Declaration

end LanguageServer
