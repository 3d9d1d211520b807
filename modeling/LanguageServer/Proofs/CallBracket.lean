/-
# Brackets around a call

The call at a column is found by going back over a line, and its parameter is counted by going
on from its bracket. Both follow the brackets that are open: the stack that one pass over the
line keeps (`OpenCall.openBrackets`). Going back finds the top of the stack
(`OpenCall.behindOpening?_reverse`), the depth while going on is the place on the stack, counted
from one (`OpenCall.depthAfter_drop`), and so the commas that count are those in front of which
the bracket of the call is the innermost open one (`OpenCall.parameter_told_by_brackets`).
-/

import LanguageServer.Feature.Signature
import LanguageServer.Proofs.Column
import Mathlib.Data.Finset.Card

namespace LanguageServer.OpenCall

open Text

/-- The open brackets behind a character. A closing bracket closes the innermost one, of
whatever kind, or nothing. -/
def openAfter (column : Nat) (c : CodePoint) (stack : List Nat) : List Nat :=
  if isOpening c then column :: stack else if isClosing c then stack.tail else stack

/-- The columns of the brackets that are open at the end of a text, the innermost one first. -/
def openBrackets (text : Line) : List Nat :=
  text.zipIdx.foldl (fun stack (c, column) => openAfter column c stack) []

theorem openBrackets_concat (text : Line) (c : CodePoint) :
    openBrackets (text ++ [c]) = openAfter text.length c (openBrackets text) := by
  rw [openBrackets, List.zipIdx_append, List.foldl_append, openBrackets, Nat.zero_add]
  rfl

/-- The depth behind a text, counted in brackets from a depth on. -/
def depthAfter (depth : Int) (text : Line) : Int :=
  text.foldl (fun depth c =>
    if isOpening c then depth + 1 else if isClosing c then depth - 1 else depth) depth

theorem depthAfter_concat (depth : Int) (text : Line) (c : CodePoint) :
    depthAfter depth (text ++ [c]) =
      if isOpening c then depthAfter depth text + 1
      else if isClosing c then depthAfter depth text - 1 else depthAfter depth text := by
  rw [depthAfter, List.foldl_append]
  rfl

theorem isClosing_of_isOpening {c : CodePoint} (h : isOpening c = true) : isClosing c = false := by
  simp only [isOpening, Bool.or_eq_true, decide_eq_true_eq] at h
  rcases h with rfl | rfl <;> rfl

theorem behindOpening?_cons (depth : Nat) (c : CodePoint) (rest : List CodePoint) :
    behindOpening? depth (c :: rest) =
      if isClosing c then (behindOpening? (depth + 1) rest).map (· + 1)
      else if isOpening c then
        match depth with
        | 0 => some 0
        | depth + 1 => (behindOpening? depth rest).map (· + 1)
      else (behindOpening? depth rest).map (· + 1) := by
  cases depth <;> rfl

section Stack

variable {text : Line} {column place : Nat}

/-- The depth from an open bracket on is its place on the stack, counted from one. -/
theorem depthAfter_drop (h : (openBrackets text)[place]? = some column) :
    column < text.length ∧ depthAfter 0 (text.drop column) = place + 1 := by
  induction text using List.reverseRecOn generalizing place with
  | nil => cases h
  | append_singleton text c ih =>
      have hlonger {place' : Nat} (h' : (openBrackets text)[place']? = some column) :
          column < (text ++ [c]).length ∧
            (text ++ [c]).drop column = text.drop column ++ [c] ∧
              depthAfter 0 (text.drop column) = place' + 1 := by
        obtain ⟨hlt, hdepth⟩ := ih h'
        refine ⟨?_, List.drop_append_of_le_length (Nat.le_of_lt hlt), hdepth⟩
        rw [List.length_append]
        omega
      rw [openBrackets_concat, openAfter] at h
      split at h
      · next hopening =>
          cases place with
          | zero =>
              cases h
              rw [List.drop_left, depthAfter, List.foldl_cons, if_pos hopening, List.length_append]
              exact ⟨Nat.lt_succ_self _, rfl⟩
          | succ place =>
              obtain ⟨hlt, hdrop, hdepth⟩ := hlonger h
              rw [hdrop, depthAfter_concat, if_pos hopening, hdepth]
              exact ⟨hlt, by rw [Int.natCast_succ]⟩
      · next hopening =>
          split at h
          · next hclosing =>
              rw [List.getElem?_tail] at h
              obtain ⟨hlt, hdrop, hdepth⟩ := hlonger h
              rw [hdrop, depthAfter_concat, if_neg hopening, if_pos hclosing, hdepth]
              exact ⟨hlt, by omega⟩
          · next hclosing =>
              obtain ⟨hlt, hdrop, hdepth⟩ := hlonger h
              rw [hdrop, depthAfter_concat, if_neg hopening, if_neg hclosing, hdepth]
              exact ⟨hlt, rfl⟩

/-- A bracket that is open at the end of a text has been open ever since. -/
theorem mem_openBrackets_take {column here : Nat} (h : column ∈ openBrackets text)
    (hhere : column < here) : column ∈ openBrackets (text.take here) := by
  induction text using List.reverseRecOn with
  | nil => cases h
  | append_singleton text c ih =>
      obtain hlt | hle := Nat.lt_or_ge text.length here
      · rwa [List.take_of_length_le (by rw [List.length_append]; exact hlt)]
      · rw [List.take_append_of_le_length hle]
        refine ih ?_
        rw [openBrackets_concat, openAfter] at h
        split at h
        · exact (List.mem_cons.mp h).resolve_left (by omega)
        · split at h
          · exact List.mem_of_mem_tail h
          · exact h

/-- Going back from the end of a text with some closing brackets passed already, the bracket
that is found has as many others above it on the stack. -/
theorem behindOpening?_reverse (depth : Nat) (text : Line) :
    behindOpening? depth text.reverse =
      ((openBrackets text)[depth]?).map (text.length - 1 - ·) := by
  induction text using List.reverseRecOn generalizing depth with
  | nil => rfl
  | append_singleton text c ih =>
      have hlonger (depth' : Nat) : (behindOpening? depth' text.reverse).map (· + 1) =
          ((openBrackets text)[depth']?).map ((text ++ [c]).length - 1 - ·) := by
        rw [ih, Option.map_map]
        refine Option.map_congr fun column hcolumn => ?_
        have hlt := (depthAfter_drop hcolumn).1
        rw [Function.comp_apply, List.length_append, List.length_singleton]
        omega
      rw [List.reverse_append, List.reverse_singleton, List.singleton_append,
        openBrackets_concat, openAfter]
      cases hopening : isOpening c with
      | true =>
          rw [behindOpening?_cons, isClosing_of_isOpening hopening, hopening]
          cases depth with
          | zero => simp
          | succ depth => exact hlonger depth
      | false =>
          rw [behindOpening?_cons, hopening]
          cases isClosing c with
          | true =>
              simp only [Bool.false_eq_true, if_true, if_false, List.getElem?_tail]
              exact hlonger (depth + 1)
          | false => exact hlonger depth

end Stack

theorem commasAtOne_append (depth : Int) (text more : Line) :
    commasAtOne depth (text ++ more) =
      commasAtOne depth text + commasAtOne (depthAfter depth text) more := by
  induction text generalizing depth with
  | nil => exact (Nat.zero_add _).symm
  | cons c text ih =>
      rw [List.cons_append, commasAtOne, commasAtOne, depthAfter, List.foldl_cons, ← depthAfter]
      split
      · exact ih _
      · split
        · exact ih _
        · split
          · rw [ih]
            omega
          · exact ih _

theorem commasAtOne_singleton (depth : Int) (c : CodePoint) :
    commasAtOne depth [c] = if c = ',' ∧ depth = 1 then 1 else 0 := by
  by_cases hcomma : c = ','
  · subst hcomma
    simp [commasAtOne, isOpening, isClosing]
  · simp [commasAtOne, hcomma]

/-- The commas that are counted from a column on are those in front of which the depth is one. -/
theorem commasAtOne_drop (text : Line) (first : Nat) :
    commasAtOne 0 (text.drop first) =
      {column ∈ Finset.range text.length | first ≤ column ∧ text[column]? = some (.char ',') ∧
        depthAfter 0 ((text.take column).drop first) = 1}.card := by
  induction text using List.reverseRecOn with
  | nil => simp [commasAtOne]
  | append_singleton text c ih =>
      have hsame : ∀ column ∈ Finset.range text.length,
          (first ≤ column ∧ (text ++ [c])[column]? = some (.char ',') ∧
            depthAfter 0 (((text ++ [c]).take column).drop first) = 1) ↔
          first ≤ column ∧ text[column]? = some (.char ',') ∧
            depthAfter 0 ((text.take column).drop first) = 1 := by
        intro column hcolumn
        have hlt := Finset.mem_range.mp hcolumn
        rw [List.getElem?_append_left hlt, List.take_append_of_le_length (Nat.le_of_lt hlt)]
      have hlast : (text ++ [c])[text.length]? = some c := by
        rw [List.getElem?_append_right (Nat.le_refl _), Nat.sub_self]
        rfl
      rw [List.length_append, List.length_singleton, Finset.range_add_one, Finset.filter_insert,
        hlast, List.take_left, Finset.filter_congr hsame]
      obtain hlt | hle := Nat.lt_or_ge text.length first
      · rw [if_neg fun hall => Nat.not_le_of_lt hlt hall.1, ← ih,
          List.drop_eq_nil_of_le (Nat.le_of_lt hlt),
          List.drop_eq_nil_of_le (by rw [List.length_append]; exact hlt)]
      · rw [List.drop_append_of_le_length hle, commasAtOne_append, commasAtOne_singleton, ih]
        simp only [hle, true_and, Option.some.injEq]
        split
        · rw [Finset.card_insert_of_notMem (by simp)]
        · rfl

/-- The call at a column is the one of the innermost bracket that is open there, where a name
stands in front of the bracket. -/
theorem at?_eq_some_iff {line : Line} {cursor : Nat} {call : OpenCall} :
    at? line cursor = some call ↔
      ∃ column, (openBrackets (line.take cursor)).head? = some column ∧
        runStart isNameChar line column < column ∧
          call = ⟨slice line (runStart isNameChar line column) column,
            slice line column cursor⟩ := by
  rw [at?, atEnd?, behindOpening?_reverse, ← List.head?_eq_getElem?]
  cases hopen : (openBrackets (line.take cursor)).head? with
  | none => simp
  | some column =>
      rw [List.head?_eq_getElem?] at hopen
      have hlt := (depthAfter_drop hopen).1
      have hcolumn : (line.take cursor).length - 1 - ((line.take cursor).length - 1 - column) =
          column := by omega
      have hcursor : column ≤ cursor :=
        Nat.le_trans (Nat.le_of_lt hlt) (List.length_take_le cursor line)
      have htake : (line.take cursor).take column = line.take column := by
        rw [List.take_take, Nat.min_eq_left hcursor]
      have hstart : runStart isNameChar (line.take cursor) column =
          runStart isNameChar line column := by
        rw [runStart, runStart, htake]
      have hle := runStart_le isNameChar line column
      simp only [Option.map_some, hcolumn, hstart, slice, htake, Option.some.injEq]
      constructor
      · intro h
        split at h
        · cases h
        · next hne =>
            cases h
            exact ⟨column, rfl, by omega, rfl⟩
      · rintro ⟨_, rfl, hname, rfl⟩
        rw [if_neg (by omega)]

/-- The depth behind a part of the text of an open bracket is positive, and it is one exactly
where the bracket is the innermost open one. -/
theorem depthAfter_of_mem {text : Line} {column : Nat} (h : column ∈ openBrackets text) :
    1 ≤ depthAfter 0 (text.drop column) ∧
      (depthAfter 0 (text.drop column) = 1 ↔ (openBrackets text).head? = some column) := by
  obtain ⟨place, hplace⟩ := List.mem_iff_getElem?.mp h
  have hdepth := (depthAfter_drop hplace).2
  refine ⟨by omega, fun hone => ?_, fun hhead => ?_⟩
  · have hzero : place = 0 := by omega
    rw [List.head?_eq_getElem?, ← hzero, hplace]
  · rw [List.head?_eq_getElem?] at hhead
    exact (depthAfter_drop hhead).2

section Innermost

variable {text : Line} {cursor column : Nat}

/-- The innermost open bracket at a cursor is open at each place between it and the cursor. -/
theorem mem_openBrackets_between (hopen : (openBrackets (text.take cursor)).head? = some column)
    {here : Nat} (hcolumn : column < here) (hcursor : here ≤ cursor) :
    column ∈ openBrackets (text.take here) := by
  have htake := mem_openBrackets_take (List.mem_of_head? hopen) hcolumn
  rwa [List.take_take, Nat.min_eq_left hcursor] at htake

theorem one_le_depthAfter_of_prefix
    (hopen : (openBrackets (text.take cursor)).head? = some column) {front : Line}
    (hfront : front <+: slice text column cursor) (hne : front ≠ []) :
    1 ≤ depthAfter 0 front := by
  have hpos := List.length_pos_iff.mpr hne
  have hlt := (depthAfter_drop (List.head?_eq_getElem? ▸ hopen)).1
  have hcursor := List.length_take_le cursor text
  have heq : front = (text.take (min (column + front.length) cursor)).drop column := by
    rw [← List.take_take, ← List.take_drop]
    exact List.prefix_iff_eq_take.mp hfront
  rw [heq]
  exact (depthAfter_of_mem (mem_openBrackets_between hopen (by omega) (Nat.min_le_right ..))).1

/-- The commas that are counted from the innermost open bracket on are those in front of which
it is the innermost open one as well. -/
theorem commasAtOne_slice (hopen : (openBrackets (text.take cursor)).head? = some column) :
    commasAtOne 0 (slice text column cursor) =
      {comma ∈ Finset.range cursor | column < comma ∧ text[comma]? = some (.char ',') ∧
        (openBrackets (text.take comma)).head? = some column}.card := by
  rw [slice, commasAtOne_drop]
  congr 1
  ext comma
  simp only [Finset.mem_filter, Finset.mem_range, List.length_take]
  have htake (hcursor : comma < cursor) : (text.take cursor).take comma = text.take comma := by
    rw [List.take_take, Nat.min_eq_left (Nat.le_of_lt hcursor)]
  constructor
  · rintro ⟨hlt, hle, hcomma, hdepth⟩
    have hcursor : comma < cursor := by omega
    rw [List.getElem?_take_of_lt hcursor] at hcomma
    rw [htake hcursor] at hdepth
    have hne : column ≠ comma := by
      rintro rfl
      rw [List.drop_eq_nil_of_le (List.length_take_le ..)] at hdepth
      cases hdepth
    have hcolumn : column < comma := by omega
    have hmem := mem_openBrackets_between hopen hcolumn (Nat.le_of_lt hcursor)
    exact ⟨hcursor, hcolumn, hcomma, (depthAfter_of_mem hmem).2.mp hdepth⟩
  · rintro ⟨hcursor, hcolumn, hcomma, hhead⟩
    have hlength := (List.getElem?_eq_some_iff.mp hcomma).1
    have hmem := mem_openBrackets_between hopen hcolumn (Nat.le_of_lt hcursor)
    rw [List.getElem?_take_of_lt hcursor, htake hcursor]
    exact ⟨by omega, Nat.le_of_lt hcolumn, hcomma, (depthAfter_of_mem hmem).2.mpr hhead⟩

end Innermost

/-- The bracket of the call at a cursor is the innermost one that is open there. Behind it the
depth stays positive and comes back to one, and the parameter is told by the commas in front of
which that bracket is the innermost open one. -/
theorem parameter_told_by_brackets {text : Line} {cursor : Nat} {call : OpenCall}
    (h : at? text cursor = some call) :
    ∃ column, (openBrackets (text.take cursor)).head? = some column ∧
      (∃ start < column, call.callee = slice text start column) ∧
      call.inside = slice text column cursor ∧
      (∀ front, front <+: call.inside → front ≠ [] → 1 ≤ depthAfter 0 front) ∧
      depthAfter 0 call.inside = 1 ∧
      call.activeParameter =
        {comma ∈ Finset.range cursor | column < comma ∧ text[comma]? = some (.char ',') ∧
          (openBrackets (text.take comma)).head? = some column}.card := by
  obtain ⟨column, hopen, hname, rfl⟩ := at?_eq_some_iff.mp h
  exact ⟨column, hopen, ⟨_, hname, rfl⟩, rfl, fun _ => one_le_depthAfter_of_prefix hopen,
    (depthAfter_of_mem (List.mem_of_head? hopen)).2.mpr hopen, commasAtOne_slice hopen⟩

/-- A call with another call and a list behind its bracket, where round and square brackets close
each other. One bracket closes nothing, and the cursor is behind the end of the line. -/
theorem third_parameter_behind_mixed_brackets :
    let text := Text.toList ") max(a, f!(b, c], [d, e), "
    let call : OpenCall := ⟨Text.toList "max", Text.toList "(a, f!(b, c], [d, e), "⟩
    at? text 40 = some call ∧
      (∀ front, front <+: call.inside → front ≠ [] → 1 ≤ depthAfter 0 front) ∧
      depthAfter 0 call.inside = 1 ∧ call.activeParameter = 3 ∧
      3 = {comma ∈ Finset.range 40 | 5 < comma ∧ text[comma]? = some (.char ',') ∧
        (openBrackets (text.take comma)).head? = some 5}.card := by
  intro text call
  have hcall : at? text 40 = some call := by decide +kernel
  have hhead : (openBrackets (text.take 40)).head? = some 5 := by decide +kernel
  have hthree : call.activeParameter = 3 := by decide +kernel
  obtain ⟨column, hopen, -, -, hpositive, hone, hcount⟩ := parameter_told_by_brackets hcall
  rw [hhead] at hopen
  cases hopen
  exact ⟨hcall, hpositive, hone, hthree, hthree ▸ hcount⟩

end LanguageServer.OpenCall
