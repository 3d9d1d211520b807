/-
# Words, read by numbers

The word at a cursor, the name that a line declares and the places of a word on a line,
where each character is taken by its number.
-/

import LanguageServer.Proofs.ByNumber.Basic

namespace LanguageServer.ByNumber

open Text

/-- The line and the column of a cursor, where the line is taken by its number. -/
def locate? (lines : List Line) (cursor : Cursor) : Reading (Option (Line × Nat)) := do
  match ← line? lines cursor.line with
  | none => return none
  | some text =>
      if cursor.character < 0 ∨ (text.length : Int) < cursor.character then return none
      else return some (text, cursor.character.toNat)

theorem locate?_eq_ok (lines : List Line) (cursor : Cursor) :
    locate? lines cursor = .ok (Text.locate? lines cursor) := by
  rw [locate?, line?_eq_ok, ok_bind, locate?_eq_bind]
  cases if cursor.line < 0 then none else lines[cursor.line.toNat]? with
  | none => rfl
  | some text =>
      by_cases hcharacter : cursor.character < 0 ∨ (text.length : Int) < cursor.character
      · simp only [Option.bind_some, hcharacter, if_true]
        rfl
      · simp only [Option.bind_some, hcharacter, if_false]
        rfl

/-- The word from a cursor on. -/
def wordFrom? (lines : List Line) (cursor : Cursor) : Reading (Option Word) := do
  match ← locate? lines cursor with
  | none => return none
  | some (text, column) =>
      let stop ← forward isWordChar text (text.length - column) column
      return some ⟨slice text column stop, column, stop⟩

theorem wordFrom?_eq_ok (lines : List Line) (cursor : Cursor) :
    wordFrom? lines cursor = .ok (Text.wordFrom? lines cursor) := by
  rw [wordFrom?, locate?_eq_ok, ok_bind, Text.wordFrom?]
  cases Text.locate? lines cursor with
  | none => rfl
  | some place =>
      obtain ⟨text, column⟩ := place
      simp only [forward_eq_runStop, ok_bind]
      rfl

/-- The word up to a cursor, if it is not empty. -/
def wordUpTo? (lines : List Line) (cursor : Cursor) : Reading (Option Line) := do
  match ← locate? lines cursor with
  | none => return none
  | some (text, column) =>
      let word := slice text (← backward isWordChar text column) column
      return if word.isEmpty then none else some word

theorem wordUpTo?_eq_ok (lines : List Line) (cursor : Cursor) :
    wordUpTo? lines cursor = .ok (Text.wordUpTo? lines cursor) := by
  rw [wordUpTo?, locate?_eq_ok, ok_bind, Text.wordUpTo?]
  cases hlocate : Text.locate? lines cursor with
  | none => rfl
  | some place =>
      obtain ⟨text, column⟩ := place
      simp only [backward_eq_runStart _ (locate?_eq_some hlocate).2, ok_bind]
      rfl

/-- The whole word that a column of a line is in front of a character of, if it is an
identifier. -/
def identifier? (text : Line) (character : Int) : Reading (Option Line) := do
  if 0 ≤ character ∧ character < text.length then
    if isWordChar (← itemAt text character) then
      let column := character.toNat
      let start ← backward isWordChar text column
      let stop ← forward isWordChar text (text.length - column) column
      return if isIdentifierStart (← itemAt text start) then some (slice text start stop) else none
    else return none
  else return none

/-- The identifier at a cursor. -/
def identifierAt? (lines : List Line) (cursor : Cursor) : Reading (Option Line) := do
  match ← line? lines cursor.line with
  | none => return none
  | some text => identifier? text cursor.character

theorem identifierAt?_eq_ok (lines : List Line) (cursor : Cursor) :
    identifierAt? lines cursor = .ok (Text.identifierAt? lines cursor) := by
  rw [identifierAt?, line?_eq_ok, ok_bind, Text.identifierAt?, locate?_eq_bind]
  cases if cursor.line < 0 then none else lines[cursor.line.toNat]? with
  | none => rfl
  | some text =>
      simp only [Option.bind_some, identifier?]
      by_cases hcharacter : 0 ≤ cursor.character ∧ cursor.character < text.length
      · obtain ⟨c, hc, hread⟩ := itemAt_of_lt hcharacter.1 hcharacter.2
        rw [if_pos hcharacter, if_neg (by omega), hread, ok_bind]
        simp only [hc, Option.any_some]
        cases hword : isWordChar c with
        | false => rfl
        | true =>
            have hlength : cursor.character.toNat ≤ text.length := by omega
            have hordered := Nat.lt_of_le_of_lt
              (runStart_le isWordChar text cursor.character.toNat) (lt_runStop hc hword)
            obtain ⟨first, hfirst⟩ :
                ∃ first, text[runStart isWordChar text cursor.character.toNat]? = some first :=
              ⟨_, List.getElem?_eq_getElem
                (Nat.lt_of_lt_of_le hordered (runStop_le_length _ hlength))⟩
            rw [if_pos rfl, if_pos rfl, backward_eq_runStart _ hlength, ok_bind,
              forward_eq_runStop, ok_bind, itemAt_eq_ok hfirst, ok_bind, head?_slice hordered,
              hfirst]
            rfl
      · rw [if_neg hcharacter]
        split
        · next heq =>
            split at heq
            · cases heq
              rfl
            · cases heq
        · next found column heq =>
            split at heq
            · cases heq
            · obtain ⟨rfl, rfl⟩ := Prod.mk.inj (Option.some.inj heq)
              -- The cursor is at the end of the line, where no character is.
              rw [List.getElem?_eq_none (by omega)]
              rfl

/-- The word that a line starts with. -/
def leadingWord (text : Line) : Reading Line := do
  return text.take (← forward isWordChar text text.length 0)

theorem leadingWord_eq_ok (text : Line) : leadingWord text = .ok (Text.leadingWord text) := by
  have hread := forward_eq_ok isWordChar (List.prefix_refl (text.drop 0))
  rw [List.drop_zero, Nat.zero_add] at hread
  rw [leadingWord, hread, ok_bind, pure_eq_ok, Text.leadingWord]
  exact congrArg Except.ok (List.prefix_iff_eq_take.mp (List.takeWhile_prefix isWordChar)).symm

/-- The word after a keyword and its blank that start a line. -/
def nameAfter? (lead text : Line) : Reading (Option Line) := do
  if lead.isPrefixOf text then
    let name ← leadingWord (text.drop lead.length)
    return if name.isEmpty then none else some name
  else return none

theorem nameAfter?_eq_ok (lead text : Line) :
    nameAfter? lead text = .ok (Declaration.nameAfter? lead text) := by
  rw [nameAfter?, Declaration.nameAfter?, leadingWord_eq_ok]
  split <;> rfl

/-- The name that a line declares with a keyword. -/
def name? (lead text : Line) : Reading (Option Line) :=
  nameAfter? lead (trimStart text)

theorem name?_eq_ok (lead text : Line) : name? lead text = .ok (Declaration.name? lead text) :=
  nameAfter?_eq_ok lead (trimStart text)

/-- The function that a line declares. -/
def function? (text : Line) : Reading (Option Line) :=
  name? Declaration.functionLead text

theorem function?_eq_ok (text : Line) : function? text = .ok (Declaration.function? text) :=
  name?_eq_ok Declaration.functionLead text

/-- The columns where a word stands on a line. -/
def occurrences (word text : Line) : List Nat :=
  (List.range text.length).filter fun start => word.isPrefixOf (text.drop start)

/-- Whether no word character stands before a column. -/
def opensWord (text : Line) (start : Nat) : Reading Bool := do
  if start = 0 then return true else return !isWordChar (← itemAt text ((start : Int) - 1))

theorem opensWord_eq_ok {text : Line} {start : Nat} (h : start < text.length) :
    opensWord text start = .ok (!(characterBefore none text start).any isWordChar) := by
  cases start with
  | zero => rfl
  | succ column =>
      obtain ⟨c, hc⟩ : ∃ c, text[column]? = some c :=
        ⟨_, List.getElem?_eq_getElem (Nat.lt_of_succ_lt h)⟩
      have hnumber : ((column + 1 : Nat) : Int) - 1 = column := by omega
      rw [opensWord, if_neg (Nat.succ_ne_zero column), hnumber, itemAt_eq_ok hc, ok_bind,
        characterBefore, hc]
      rfl

/-- Whether no word character stands at a column. -/
def closesWord (text : Line) (stop : Nat) : Reading Bool := do
  if text.length ≤ stop then return true else return !isWordChar (← itemAt text stop)

theorem closesWord_eq_ok (text : Line) (stop : Nat) :
    closesWord text stop = .ok (!(text.drop stop).head?.any isWordChar) := by
  rw [closesWord, List.head?_drop]
  split
  · next hend =>
      rw [List.getElem?_eq_none hend]
      rfl
  · next hend =>
      obtain ⟨c, hc⟩ : ∃ c, text[stop]? = some c :=
        ⟨_, List.getElem?_eq_getElem (Nat.not_le.mp hend)⟩
      rw [itemAt_eq_ok hc, hc]
      rfl

end LanguageServer.ByNumber
