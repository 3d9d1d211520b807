/-
# Reading by numbers

The answers about documents are found by going over lines and over the characters of a
line by their numbers. Here such a reading is spelled out: an item is taken by its
number, and a number that no item has ends the reading. That no reading ends so is the
same as that it comes to what is said of the whole lists.
-/

import LanguageServer.Proofs.Column
import LanguageServer.Proofs.Lines

namespace LanguageServer

open Text

/-- A number that none of some items has. -/
structure Absent where
  count : Nat
  number : Int

/-- What comes of taking items by their numbers, or the first number that is absent. -/
abbrev Reading (α : Type) := Except Absent α

namespace ByNumber

variable {α β : Type}

/-- The item of a number. Items are not counted from the end, so a negative number is
absent like one that is too large. -/
def itemAt (items : List α) (number : Int) : Reading α :=
  if number < 0 then .error ⟨items.length, number⟩
  else
    match items[number.toNat]? with
    | none => .error ⟨items.length, number⟩
    | some item => .ok item

theorem itemAt_eq_ok {items : List α} {number : Nat} {item : α} (h : items[number]? = some item) :
    itemAt items number = .ok item := by
  rw [itemAt, if_neg (by omega), Int.toNat_natCast, h]

/-- A number that is not too small and not too large is that of an item. -/
theorem itemAt_of_lt {items : List α} {number : Int} (hlow : 0 ≤ number)
    (hhigh : number < items.length) :
    ∃ item, items[number.toNat]? = some item ∧ itemAt items number = .ok item := by
  obtain ⟨n, rfl⟩ := Int.eq_ofNat_of_zero_le hlow
  have hitem := List.getElem?_eq_getElem (Int.ofNat_lt.mp hhigh)
  exact ⟨_, hitem, itemAt_eq_ok hitem⟩

@[simp]
theorem ok_bind (a : α) (next : α → Reading β) : (Except.ok a >>= next) = next a := rfl

@[simp]
theorem pure_eq_ok (a : α) : (pure a : Reading α) = .ok a := rfl

/-- What is read for each of some items, one after the other. -/
def gather (read : α → Reading (List β)) : List α → Reading (List β)
  | [] => return []
  | item :: later => do
      let found ← read item
      let more ← gather read later
      return found ++ more

theorem gather_eq_ok {read : α → Reading (List β)} {items : List α} {result : α → List β}
    (h : ∀ item ∈ items, read item = .ok (result item)) :
    gather read items = .ok (items.flatMap result) := by
  induction items with
  | nil => rfl
  | cons item later ih =>
      rw [gather, h item List.mem_cons_self,
        ih fun other hother => h other (List.mem_cons_of_mem _ hother), List.flatMap_cons]
      rfl

/-- The items that pass a test, where the test reads. -/
def keep (test : α → Reading Bool) : List α → Reading (List α)
  | [] => return []
  | item :: later => do
      let passes ← test item
      let more ← keep test later
      return if passes then item :: more else more

theorem keep_eq_ok {test : α → Reading Bool} {items : List α} {p : α → Bool}
    (h : ∀ item ∈ items, test item = .ok (p item)) : keep test items = .ok (items.filter p) := by
  induction items with
  | nil => rfl
  | cons item later ih =>
      rw [keep, h item List.mem_cons_self,
        ih fun other hother => h other (List.mem_cons_of_mem _ hother), List.filter_cons]
      rfl

/-- What is read on each line of a document, with the number of the line. -/
def gatherLines (read : Line → Nat → Reading (List β)) (lines : List Line) : Reading (List β) :=
  gather (fun entry => read entry.1 entry.2) lines.zipIdx

theorem gatherLines_eq_ok {read : Line → Nat → Reading (List β)} {lines : List Line}
    {g : Line → Nat → List β}
    (h : ∀ (number : Nat) (line : Line), lines[number]? = some line →
      read line number = .ok (g line number)) :
    gatherLines read lines = .ok (lines.zipIdx.flatMap fun entry => g entry.1 entry.2) :=
  gather_eq_ok fun _ hentry => h _ _ (List.mem_zipIdx_iff_getElem?.mp hentry)

/-- The lines of a text. The last piece is taken by its number. -/
def lines (text : Text) : Reading (List Line) := do
  let parts := pieces (.char '\n') text.toList
  let last ← itemAt parts (parts.length - 1)
  return (if last = [] then parts.dropLast else parts).map dropReturn

theorem lines_eq_ok (text : Text) : lines text = .ok (Text.lines text) := by
  have hne := pieces_ne_nil '\n' text.toList
  have hlast : (pieces (.char '\n') text.toList)[(pieces (.char '\n') text.toList).length - 1]? =
      some ((pieces (.char '\n') text.toList).getLast hne) := by
    rw [← List.getLast?_eq_getElem?, List.getLast?_eq_some_getLast hne]
  have hpositive := List.length_pos_of_ne_nil hne
  have hnumber : ((pieces (.char '\n') text.toList).length : Int) - 1 =
      ((pieces (.char '\n') text.toList).length - 1 : Nat) := by omega
  simp only [lines]
  rw [hnumber, itemAt_eq_ok hlast, ok_bind, pure_eq_ok, Text.lines, splitLines, dropEmptyLast,
    List.getLast?_eq_some_getLast hne]
  simp only [Option.some.injEq]

/-- The line of a number, if there is one. -/
def line? (lines : List Line) (number : Int) : Reading (Option Line) := do
  if 0 ≤ number ∧ number < lines.length then return some (← itemAt lines number) else return none

theorem line?_eq_ok (lines : List Line) (number : Int) :
    line? lines number = .ok (if number < 0 then none else lines[number.toNat]?) := by
  rw [line?]
  split
  · next hnumber =>
      obtain ⟨line, hline, hread⟩ := itemAt_of_lt hnumber.1 hnumber.2
      rw [if_neg (by omega), hline, hread]
      rfl
  · next hnumber =>
      split
      · rfl
      · rw [List.getElem?_eq_none (by omega)]
        rfl

/-- Goes on from a column while the characters are of a class, over a number of
characters at most. -/
def forward (p : CodePoint → Bool) (line : Line) : Nat → Nat → Reading Nat
  | 0, column => return column
  | left + 1, column => do
      if p (← itemAt line column) then forward p line left (column + 1) else return column

/-- Goes back from a column while the characters before it are of a class. -/
def backward (p : CodePoint → Bool) (line : Line) : Nat → Reading Nat
  | 0 => return 0
  | column + 1 => do
      if p (← itemAt line column) then backward p line column else return column + 1

theorem forward_eq_ok (p : CodePoint → Bool) {line part : Line} {column : Nat}
    (h : part <+: line.drop column) :
    forward p line part.length column = .ok (column + (part.takeWhile p).length) := by
  induction part generalizing column with
  | nil => rfl
  | cons c part ih =>
      obtain ⟨rest, hrest⟩ := h
      have hdrop : line.drop column = c :: (part ++ rest) := hrest.symm
      rw [List.length_cons, forward, itemAt_eq_ok (getElem?_of_drop hdrop), ok_bind,
        List.takeWhile_cons]
      cases p c with
      | false => rfl
      | true =>
          rw [if_pos rfl, ih ⟨rest, (drop_succ_of_drop hdrop).symm⟩, if_pos rfl, List.length_cons]
          congr 1
          omega

/-- Going on to the end of the line comes to the end of the run. -/
theorem forward_eq_runStop (p : CodePoint → Bool) (line : Line) (column : Nat) :
    forward p line (line.length - column) column = .ok (runStop p line column) := by
  rw [← List.length_drop, forward_eq_ok p (List.prefix_refl _), runStop]

theorem backward_eq_runStart (p : CodePoint → Bool) {text : Line} {column : Nat}
    (h : column ≤ text.length) : backward p text column = .ok (runStart p text column) := by
  induction column with
  | zero => rfl
  | succ column ih =>
      obtain ⟨c, hc⟩ : ∃ c, text[column]? = some c := ⟨_, List.getElem?_eq_getElem h⟩
      rw [backward, itemAt_eq_ok hc, ok_bind, runStart, reverse_take_succ hc, List.takeWhile_cons]
      cases p c with
      | false => rfl
      | true =>
          rw [if_pos rfl, if_pos rfl, ih (Nat.le_of_succ_le h), List.length_cons,
            Nat.succ_sub_succ, runStart]

end ByNumber

end LanguageServer
