/-
# Tokens and open calls, read by numbers

The tokens of a line and the call around a column, where each character is taken by its
number. The tokens are found going on and the call going back.
-/

import LanguageServer.Feature.SemanticToken
import LanguageServer.Feature.Signature
import LanguageServer.Proofs.ByNumber.Basic

namespace LanguageServer.ByNumber

open Text

/-- The column after a string, going on from a column inside of it. A string that is not
closed runs to the end of the line. -/
def stringStop (text : Line) : Bool → Nat → Nat → Reading Nat
  | _, 0, _ => return text.length
  | escaped, left + 1, column => do
      let c ← itemAt text column
      if escaped then stringStop text false left (column + 1)
      else if c = '\\' then stringStop text true left (column + 1)
      else if c = '"' then return column + 1
      else stringStop text false left (column + 1)

theorem stringStop_eq_ok {text rest : Line} {column : Nat} (hcolumn : column ≤ text.length)
    (h : text.drop column = rest) (escaped : Bool) :
    stringStop text escaped rest.length column =
      .ok (column + SemanticToken.stringTail escaped rest) := by
  induction rest generalizing column escaped with
  | nil =>
      have hend := List.drop_eq_nil_iff.mp h
      simp only [List.length_nil, stringStop, SemanticToken.stringTail, pure_eq_ok]
      congr 1
      omega
  | cons c rest ih =>
      have hlt := (List.getElem?_eq_some_iff.mp (getElem?_of_drop h)).1
      have hlater (escaped : Bool) : stringStop text escaped rest.length (column + 1) =
          .ok (column + (SemanticToken.stringTail escaped rest + 1)) := by
        rw [ih hlt (drop_succ_of_drop h) escaped]
        congr 1
        omega
      rw [List.length_cons, stringStop, itemAt_eq_ok (getElem?_of_drop h), ok_bind,
        SemanticToken.stringTail]
      split
      · exact hlater false
      · split
        · exact hlater true
        · split
          · rfl
          · exact hlater false

/-- The lexeme that starts with a character at a column: its kind, the column after it,
and the latest word after it. -/
def lexeme (previous text : Line) (c : CodePoint) (column : Nat) :
    Reading (Option TokenKind × Nat × Line) := do
  let left := text.length - (column + 1)
  if c = '"' then
    return (some .string, ← stringStop text false left (column + 1), previous)
  else if isAsciiDigit c then
    return (some .number, ← forward isAsciiDigit text left (column + 1), previous)
  else if isIdentifierStart c then
    let stop ← forward isWordChar text left (column + 1)
    let word := slice text column stop
    return (some (SemanticToken.wordKind previous word), stop, word)
  else return (none, column + 1, previous)

theorem lexeme_eq_ok {text rest : Line} {column : Nat} {c : CodePoint}
    (h : text.drop column = c :: rest) (previous : Line) :
    lexeme previous text c column =
      .ok ((SemanticToken.lexeme previous c rest).kind,
        column + 1 + (SemanticToken.lexeme previous c rest).used,
        (SemanticToken.lexeme previous c rest).word) := by
  have hrest := drop_succ_of_drop h
  have hlt := (List.getElem?_eq_some_iff.mp (getElem?_of_drop h)).1
  have hleft : text.length - (column + 1) = rest.length := by
    rw [← hrest, List.length_drop]
  have hrun (p : CodePoint → Bool) : forward p text rest.length (column + 1) =
      .ok (column + 1 + (rest.takeWhile p).length) :=
    forward_eq_ok p (hrest ▸ List.prefix_refl _)
  simp only [lexeme, SemanticToken.lexeme, hleft, hrun, stringStop_eq_ok hlt hrest, ok_bind]
  split
  · rfl
  · split
    · rfl
    · split
      · have hword : slice text column (column + 1 + (rest.takeWhile isWordChar).length) =
            c :: rest.takeWhile isWordChar := by
          have htake := List.prefix_iff_eq_take.mp (List.takeWhile_prefix isWordChar (l := rest))
          rw [slice_eq_take_drop, h, Nat.add_assoc, Nat.add_sub_cancel_left, Nat.add_comm 1,
            List.take_succ_cons, ← htake]
        rw [hword]
        rfl
      · rfl

/-- The tokens of a line from a column on and the latest word after them. A line has as
many lexemes as characters at most, which bounds the steps. -/
def lexLine (number : Nat) (text : Line) : Nat → Nat → Line →
    Reading (List SemanticToken × Line)
  | 0, _, previous => return ([], previous)
  | steps + 1, column, previous => do
      if text.length ≤ column then return ([], previous)
      else
        let c ← itemAt text column
        let (kind, stop, word) ← lexeme previous text c column
        let (later, last) ← lexLine number text steps stop word
        return ((kind.map fun kind => ⟨number, column, stop - column, kind⟩).toList ++ later, last)

theorem lexLine_eq_ok (number : Nat) {text rest : Line} {column steps : Nat}
    (h : text.drop column = rest) (hsteps : rest.length ≤ steps) (previous : Line) :
    lexLine number text steps column previous =
      .ok (SemanticToken.lexLine number column previous rest) := by
  induction steps generalizing column rest previous with
  | zero =>
      rw [List.eq_nil_of_length_eq_zero (Nat.le_zero.mp hsteps), SemanticToken.lexLine]
      rfl
  | succ steps ih =>
      cases rest with
      | nil =>
          rw [lexLine, if_pos (List.drop_eq_nil_iff.mp h), SemanticToken.lexLine]
          rfl
      | cons c rest =>
          have hlt := (List.getElem?_eq_some_iff.mp (getElem?_of_drop h)).1
          have hdrop : text.drop (column + 1 + (SemanticToken.lexeme previous c rest).used) =
              rest.drop (SemanticToken.lexeme previous c rest).used := by
            rw [← List.drop_drop, drop_succ_of_drop h]
          have hshorter :
              (rest.drop (SemanticToken.lexeme previous c rest).used).length ≤ steps := by
            rw [List.length_drop]
            rw [List.length_cons] at hsteps
            omega
          have hwidth (used : Nat) : column + 1 + used - column = 1 + used := by omega
          rw [lexLine, if_neg (Nat.not_le.mpr hlt), itemAt_eq_ok (getElem?_of_drop h), ok_bind,
            lexeme_eq_ok h, ok_bind, SemanticToken.lexLine_cons]
          simp only [ih hdrop hshorter, ok_bind, hwidth]
          rfl

/-- The tokens of lines, the first of which has a given number. -/
def lexLines (number : Nat) (previous : Line) : List Line → Reading (List SemanticToken)
  | [] => return []
  | text :: rest => do
      let (found, word) ← lexLine number text text.length 0 previous
      let later ← lexLines (number + 1) word rest
      return found ++ later

theorem lexLines_eq_ok (number : Nat) (previous : Line) (lines : List Line) :
    lexLines number previous lines = .ok (SemanticToken.lexLines number previous lines) := by
  induction lines generalizing number previous with
  | nil => rfl
  | cons text rest ih =>
      rw [lexLines, lexLine_eq_ok number List.drop_zero (Nat.le_refl _), ok_bind]
      simp only [ih, ok_bind]
      rfl

/-- The column of the nearest opening bracket before a column that is not closed, where
a number of brackets have been closed already. -/
def openingBefore? (text : Line) (depth : Nat) : Nat → Reading (Option Nat)
  | 0 => return none
  | column + 1 => do
      let c ← itemAt text column
      if OpenCall.isClosing c then openingBefore? text (depth + 1) column
      else if OpenCall.isOpening c then
        match depth with
        | 0 => return some column
        | depth + 1 => openingBefore? text depth column
      else openingBefore? text depth column

theorem openingBefore?_eq_ok {text : Line} {column : Nat} (h : column ≤ text.length)
    (depth : Nat) :
    openingBefore? text depth column =
      .ok ((OpenCall.behindOpening? depth (text.take column).reverse).map
        fun behind => column - 1 - behind) := by
  induction column generalizing depth with
  | zero => rfl
  | succ column ih =>
      obtain ⟨c, hc⟩ : ∃ c, text[column]? = some c := ⟨_, List.getElem?_eq_getElem h⟩
      have hlater (depth : Nat) : openingBefore? text depth column =
          .ok (((OpenCall.behindOpening? depth (text.take column).reverse).map (· + 1)).map
            fun behind => column + 1 - 1 - behind) := by
        rw [ih (Nat.le_of_succ_le h), Option.map_map]
        congr 2
        funext behind
        simp only [Function.comp_apply]
        omega
      unfold openingBefore?
      rw [itemAt_eq_ok hc, ok_bind, reverse_take_succ hc]
      unfold OpenCall.behindOpening?
      split
      · exact hlater (depth + 1)
      · split
        · cases depth with
          | zero => rfl
          | succ depth => exact hlater depth
        · exact hlater depth

/-- The call that is open at the end of a text. -/
def openCall? (text : Line) : Reading (Option OpenCall) := do
  match ← openingBefore? text 0 text.length with
  | none => return none
  | some column =>
      let start ← backward isNameChar text column
      return if start = column then none else some ⟨slice text start column, text.drop column⟩

theorem openCall?_eq_ok (text : Line) : openCall? text = .ok (OpenCall.atEnd? text) := by
  have hopening := openingBefore?_eq_ok (Nat.le_refl text.length) 0
  rw [List.take_length] at hopening
  rw [openCall?, hopening, ok_bind, OpenCall.atEnd?]
  cases OpenCall.behindOpening? 0 text.reverse with
  | none => rfl
  | some behind =>
      have hcolumn : text.length - 1 - behind ≤ text.length := by omega
      simp only [Option.map_some, backward_eq_runStart _ hcolumn, ok_bind]
      rfl

end LanguageServer.ByNumber
