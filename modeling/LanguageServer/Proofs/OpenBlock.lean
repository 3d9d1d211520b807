/-
# Open blocks

The line that closes a block is looked for from each opening line anew. Going through the
lines once, with the first lines of the open blocks on a stack, finds the same: a line is on
the stack exactly as long as its block is open (`Block.mem_openBefore_iff`). A closing line
without an opening one leaves the stack empty. Of two blocks that are open together the inner
one is closed first (`Block.exists_closing?_lt`).
-/

import LanguageServer.Proofs.BlockPlace
import Mathlib.Data.Finset.Card
import Mathlib.Data.Finset.Range

namespace LanguageServer

open Text

namespace Block

section Line

variable {line : Line} (depth : Int) (number : Nat) (rest : List Line)

theorem closes_eq_false_of_opens (h : opens line = true) : closes line = false := by
  rw [closes, h, Bool.not_true, Bool.false_and]

theorem opens_eq_false_of_closes (h : closes line = true) : opens line = false :=
  Bool.not_eq_true' _ ▸ (Bool.and_eq_true_iff.mp h).1

theorem closingFrom_of_opens (h : opens line = true) :
    closingFrom depth number (line :: rest) = closingFrom (depth + 1) (number + 1) rest := by
  rw [closingFrom, if_pos h]

theorem closingFrom_of_closes (h : closes line = true) :
    closingFrom depth number (line :: rest) =
      if depth - 1 = 0 then some number else closingFrom (depth - 1) (number + 1) rest := by
  have hbrace := (Bool.and_eq_true_iff.mp h).2
  rw [closingFrom, if_neg (Bool.eq_false_iff.mp (opens_eq_false_of_closes h)), if_pos hbrace]

theorem closingFrom_of_neither (hopens : opens line = false) (hcloses : closes line = false) :
    closingFrom depth number (line :: rest) = closingFrom depth (number + 1) rest := by
  have hbrace : line.contains '\x7d' = false := by
    rwa [closes, hopens, Bool.not_false, Bool.true_and] at hcloses
  rw [closingFrom, if_neg (Bool.eq_false_iff.mp hopens), if_neg (Bool.eq_false_iff.mp hbrace)]

end Line

/-- An inner block is closed before an outer one. -/
theorem exists_closingFrom_lt {inner outer : Int} (hinner : 0 < inner) (hlt : inner < outer)
    {number last : Nat} {lines : List Line} (h : closingFrom outer number lines = some last) :
    ∃ first, closingFrom inner number lines = some first ∧ first < last := by
  -- Both depths move together, so the outer one is positive when the inner one comes to zero.
  induction lines generalizing inner outer number with
  | nil => cases h
  | cons line rest ih =>
      cases hopens : opens line with
      | true =>
          rw [closingFrom_of_opens _ _ _ hopens] at h ⊢
          exact ih (by omega) (by omega) h
      | false =>
          cases hcloses : closes line with
          | true =>
              rw [closingFrom_of_closes _ _ _ hcloses, if_neg (by omega)] at h
              rw [closingFrom_of_closes _ _ _ hcloses]
              split
              · exact ⟨number, rfl, (closes_of_closingFrom h).1⟩
              · exact ih (by omega) (by omega) h
          | false =>
              rw [closingFrom_of_neither _ _ _ hopens hcloses] at h ⊢
              exact ih hinner hlt h

/-- Whether the line of a number opens a block. -/
def opensAt (lines : List Line) (number : Nat) : Bool :=
  lines[number]?.any opens

/-- The open blocks that are left when a line has closed the innermost one or none. -/
def leave (line : Line) (stack : List Nat) : List Nat :=
  if closes line then stack.tail else stack

theorem leave_of_opens {line : Line} (h : opens line = true) (stack : List Nat) :
    leave line stack = stack := by
  rw [leave, closes_eq_false_of_opens h, if_neg Bool.false_ne_true]

/-- The open blocks behind a line. -/
def openAfter (number : Nat) (line : Line) (stack : List Nat) : List Nat :=
  if opens line then number :: stack else leave line stack

/-- The first lines of the blocks that are open in front of the line of a number, the
innermost one first. -/
def openBefore (lines : List Line) : Nat → List Nat
  | 0 => []
  | number + 1 =>
      match lines[number]? with
      | none => openBefore lines number
      | some line => openAfter number line (openBefore lines number)

/-- What holds of the stack in front of a line. From the last opened to the first, the blocks
on it are closed where the search comes to an end that starts with the place on the stack as
the depth, and those not on it have been closed. -/
structure Stacked (lines : List Line) (number : Nat) (stack : List Nat) : Prop where
  descending : stack.Pairwise (· > ·)
  opened : ∀ (place start : Nat), stack[place]? = some start →
    start < number ∧ opensAt lines start = true ∧
      closing? lines start = closingFrom (place + 1) number (lines.drop number)
  closed : ∀ start < number, opensAt lines start = true → start ∉ stack →
    ∃ last < number, closing? lines start = some last

section Stack

variable {lines : List Line} {number start : Nat} {line : Line} {stack : List Nat}

theorem opensAt_eq (h : lines[number]? = some line) : opensAt lines number = opens line := by
  rw [opensAt, h, Option.any_some]

theorem Stacked.lt_of_mem (h : Stacked lines number stack) (hmem : start ∈ stack) :
    start < number := by
  obtain ⟨place, hplace⟩ := List.mem_iff_getElem?.mp hmem
  exact (h.opened place start hplace).1

/-- A line that opens a block puts itself on the stack. -/
theorem Stacked.push (h : Stacked lines number stack) (hline : lines[number]? = some line)
    (hopens : opens line = true) : Stacked lines (number + 1) (number :: stack) where
  descending := List.pairwise_cons.mpr ⟨fun _ hmem => h.lt_of_mem hmem, h.descending⟩
  opened := by
    intro place start hplace
    have hdrop := drop_of_getElem? hline
    cases place with
    | zero =>
        cases hplace
        refine ⟨Nat.lt_succ_self _, (opensAt_eq hline).trans hopens, ?_⟩
        rw [closing?, hdrop, closingFrom_of_opens _ _ _ hopens]
        rfl
    | succ place =>
        obtain ⟨hlt, hstart, hclosing⟩ := h.opened place start hplace
        refine ⟨Nat.lt_succ_of_lt hlt, hstart, ?_⟩
        rw [hclosing, hdrop, closingFrom_of_opens _ _ _ hopens]
        rfl
  closed := by
    intro start hlt hstart hmem
    rw [List.mem_cons, not_or] at hmem
    obtain ⟨last, hlast, hclosing⟩ := h.closed start (by omega) hstart hmem.2
    exact ⟨last, Nat.lt_succ_of_lt hlast, hclosing⟩

/-- A line that closes a block takes the innermost one from the stack. -/
theorem Stacked.pop (h : Stacked lines number stack) (hline : lines[number]? = some line)
    (hcloses : closes line = true) : Stacked lines (number + 1) stack.tail where
  descending := h.descending.sublist (List.tail_sublist stack)
  opened := by
    intro place start hplace
    rw [List.getElem?_tail] at hplace
    obtain ⟨hlt, hstart, hclosing⟩ := h.opened (place + 1) start hplace
    refine ⟨Nat.lt_succ_of_lt hlt, hstart, ?_⟩
    rw [hclosing, drop_of_getElem? hline, closingFrom_of_closes _ _ _ hcloses,
      if_neg (by omega), Int.add_sub_cancel, Int.natCast_succ]
  closed := by
    intro start hlt hstart hmem
    have hne : start ≠ number := by
      rintro rfl
      rw [opensAt_eq hline, opens_eq_false_of_closes hcloses] at hstart
      cases hstart
    by_cases hstack : start ∈ stack
    · -- The block on top of the stack is closed here.
      obtain ⟨place, hplace⟩ := List.mem_iff_getElem?.mp hstack
      cases place with
      | zero =>
          refine ⟨number, Nat.lt_succ_self _, ?_⟩
          rw [(h.opened 0 start hplace).2.2, drop_of_getElem? hline,
            closingFrom_of_closes _ _ _ hcloses]
          rfl
      | succ place =>
          rw [← List.getElem?_tail] at hplace
          exact absurd (List.mem_of_getElem? hplace) hmem
    · obtain ⟨last, hlast, hclosing⟩ := h.closed start (by omega) hstart hstack
      exact ⟨last, Nat.lt_succ_of_lt hlast, hclosing⟩

/-- Another line leaves the stack alone. -/
theorem Stacked.keep (h : Stacked lines number stack) (hline : lines[number]? = some line)
    (hopens : opens line = false) (hcloses : closes line = false) :
    Stacked lines (number + 1) stack where
  descending := h.descending
  opened := by
    intro place start hplace
    obtain ⟨hlt, hstart, hclosing⟩ := h.opened place start hplace
    refine ⟨Nat.lt_succ_of_lt hlt, hstart, ?_⟩
    rw [hclosing, drop_of_getElem? hline, closingFrom_of_neither _ _ _ hopens hcloses]
  closed := by
    intro start hlt hstart hmem
    have hne : start ≠ number := by
      rintro rfl
      rw [opensAt_eq hline, hopens] at hstart
      cases hstart
    obtain ⟨last, hlast, hclosing⟩ := h.closed start (by omega) hstart hmem
    exact ⟨last, Nat.lt_succ_of_lt hlast, hclosing⟩

theorem Stacked.openAfter (h : Stacked lines number stack) (hline : lines[number]? = some line) :
    Stacked lines (number + 1) (openAfter number line stack) := by
  rw [Block.openAfter, leave]
  split
  · next hopens => exact h.push hline hopens
  · next hopens =>
      split
      · next hcloses => exact h.pop hline hcloses
      · next hcloses =>
          exact h.keep hline (eq_false_of_ne_true hopens) (eq_false_of_ne_true hcloses)

theorem openBefore_succ (h : lines[number]? = some line) :
    openBefore lines (number + 1) = openAfter number line (openBefore lines number) := by
  rw [openBefore, h]

theorem stacked_openBefore (h : number ≤ lines.length) :
    Stacked lines number (openBefore lines number) := by
  induction number with
  | zero =>
      refine ⟨List.Pairwise.nil, ?_, ?_⟩
      · intro place start hplace
        cases hplace
      · intro start hlt
        exact absurd hlt (Nat.not_lt_zero _)
  | succ number ih =>
      have hline : lines[number]? = some lines[number] := List.getElem?_eq_getElem h
      rw [openBefore_succ hline]
      exact (ih (Nat.le_of_succ_le h)).openAfter hline

/-- A block is open in front of a line when it has been opened before and is not closed
before. -/
theorem mem_openBefore_iff (h : number ≤ lines.length) :
    start ∈ openBefore lines number ↔ start < number ∧ opensAt lines start = true ∧
      ∀ last, closing? lines start = some last → number ≤ last := by
  have hstacked := stacked_openBefore h
  constructor
  · intro hmem
    obtain ⟨place, hplace⟩ := List.mem_iff_getElem?.mp hmem
    obtain ⟨hlt, hstart, hclosing⟩ := hstacked.opened place start hplace
    refine ⟨hlt, hstart, fun last hlast => ?_⟩
    rw [hclosing] at hlast
    exact (closes_of_closingFrom hlast).1
  · rintro ⟨hlt, hstart, hlast⟩
    by_contra hmem
    obtain ⟨last, hbefore, hclosing⟩ := hstacked.closed start hlt hstart hmem
    exact absurd (hlast last hclosing) (Nat.not_le_of_lt hbefore)

/-- Of two blocks that are open together the inner one is closed first. -/
theorem exists_closing?_lt {last : Nat} (hstart : opensAt lines start = true)
    (hnumber : opensAt lines number = true) (hlt : start < number)
    (hclosing : closing? lines start = some last) (hle : number ≤ last) :
    ∃ inner < last, closing? lines number = some inner := by
  obtain ⟨line, hline, hopens⟩ := (Option.any_eq_true _ _).mp hnumber
  have hlength := (List.getElem?_eq_some_iff.mp hline).1
  have hstacked := stacked_openBefore (Nat.le_of_lt hlength)
  have hmem : start ∈ openBefore lines number := by
    refine (mem_openBefore_iff (Nat.le_of_lt hlength)).mpr ⟨hlt, hstart, fun other hother => ?_⟩
    rw [hclosing] at hother
    exact Option.some.inj hother ▸ hle
  obtain ⟨place, hplace⟩ := List.mem_iff_getElem?.mp hmem
  have hdrop := drop_of_getElem? hline
  rw [(hstacked.opened place start hplace).2.2, hdrop, closingFrom_of_opens _ _ _ hopens]
    at hclosing
  obtain ⟨inner, hinner, hfirst⟩ :=
    exists_closingFrom_lt (show (0 : Int) < 0 + 1 by omega) (by omega) hclosing
  refine ⟨inner, hfirst, ?_⟩
  rw [closing?, hdrop, closingFrom_of_opens _ _ _ hopens, hinner]

end Stack

/-- The first lines of the blocks around a line: those that are opened before it and not closed
up to it. The lines that open and close a block are not in it. -/
def around (lines : List Line) (number : Nat) : Finset Nat :=
  (Finset.range number).filter fun start =>
    opensAt lines start ∧ (closing? lines start).all (number < ·)

section Around

variable {lines : List Line} {number start last : Nat} {line : Line}

theorem mem_around_iff :
    start ∈ around lines number ↔ start < number ∧ opensAt lines start = true ∧
      ∀ last, closing? lines start = some last → number < last := by
  rw [around, Finset.mem_filter, Finset.mem_range, Option.all_eq_true]
  simp only [decide_eq_true_eq]

/-- The blocks around a line are those that it leaves open of the ones in front of it. -/
theorem around_eq_toFinset (h : lines[number]? = some line) :
    around lines number = (leave line (openBefore lines number)).toFinset := by
  have hlt := (List.getElem?_eq_some_iff.mp h).1
  have hmem (start : Nat) : start ∈ around lines number ↔
      start < number ∧ start ∈ openAfter number line (openBefore lines number) := by
    rw [mem_around_iff, ← openBefore_succ h, mem_openBefore_iff hlt]
    exact ⟨fun ⟨hlt, hopen⟩ => ⟨hlt, Nat.lt_succ_of_lt hlt, hopen⟩,
      fun ⟨hlt, _, hopen⟩ => ⟨hlt, hopen⟩⟩
  have hleave : ∀ start ∈ leave line (openBefore lines number), start < number := by
    intro start hstart
    refine (stacked_openBefore (Nat.le_of_lt hlt)).lt_of_mem ?_
    rw [leave] at hstart
    split at hstart
    · exact List.mem_of_mem_tail hstart
    · exact hstart
  ext start
  -- Only a line that opens a block puts more on the stack than it leaves there: itself.
  rw [hmem, List.mem_toFinset, openAfter]
  split
  · next hopens =>
      rw [leave_of_opens hopens] at hleave ⊢
      rw [List.mem_cons]
      constructor
      · rintro ⟨hbefore, rfl | hstart⟩
        · exact absurd hbefore (Nat.lt_irrefl _)
        · exact hstart
      · exact fun hstart => ⟨hleave start hstart, Or.inr hstart⟩
  · exact ⟨And.right, fun hstart => ⟨hleave start hstart, hstart⟩⟩

/-- There are as many blocks around a line as it leaves on the stack. -/
theorem card_around (h : lines[number]? = some line) :
    (around lines number).card = (leave line (openBefore lines number)).length := by
  have hlt := (List.getElem?_eq_some_iff.mp h).1
  have hdescending := (stacked_openBefore (Nat.le_of_lt hlt)).descending
  rw [around_eq_toFinset h, List.toFinset_card_of_nodup]
  refine List.Pairwise.imp (fun hgt => Nat.ne_of_gt hgt) ?_
  rw [leave]
  split
  · exact hdescending.sublist (List.tail_sublist _)
  · exact hdescending

section Closed

variable (hopens : opensAt lines start = true) (hclosing : closing? lines start = some last)

include hopens hclosing

/-- The blocks around the first line of a block are around its other lines as well, the last
one included. -/
theorem around_subset (hlt : start < number) (hle : number ≤ last) :
    around lines start ⊆ around lines number := by
  intro outer houter
  obtain ⟨hbefore, houterOpens, houterLast⟩ := mem_around_iff.mp houter
  refine mem_around_iff.mpr ⟨Nat.lt_trans hbefore hlt, houterOpens, fun outerLast hlast => ?_⟩
  obtain ⟨inner, hinner, hfirst⟩ := exists_closing?_lt houterOpens hopens hbefore hlast
    (Nat.le_of_lt (houterLast outerLast hlast))
  rw [hclosing] at hfirst
  cases hfirst
  omega

/-- Between the first and the last line of a block there is that block more. -/
theorem around_ssubset (hlt : start < number) (hnumber : number < last) :
    around lines start ⊂ around lines number := by
  refine (Finset.ssubset_iff_of_subset
    (around_subset hopens hclosing hlt (Nat.le_of_lt hnumber))).mpr ⟨start, ?_, ?_⟩
  · refine mem_around_iff.mpr ⟨hlt, hopens, fun other hother => ?_⟩
    rw [hclosing] at hother
    exact Option.some.inj hother ▸ hnumber
  · exact fun hmem => absurd (mem_around_iff.mp hmem).1 (Nat.lt_irrefl _)

/-- The same blocks are around the first and the last line of a block. -/
theorem around_last (hlt : start < last) : around lines last = around lines start := by
  refine Finset.Subset.antisymm ?_ (around_subset hopens hclosing hlt (Nat.le_refl _))
  intro other hother
  obtain ⟨hbefore, hotherOpens, hotherLast⟩ := mem_around_iff.mp hother
  have hnot : ¬start < other := by
    intro hafter
    obtain ⟨inner, hinner, hfirst⟩ :=
      exists_closing?_lt hopens hotherOpens hafter hclosing (Nat.le_of_lt hbefore)
    exact absurd (hotherLast inner hfirst) (Nat.lt_asymm hinner)
  have hne : other ≠ start := by
    rintro rfl
    exact absurd (hotherLast last hclosing) (Nat.lt_irrefl _)
  refine mem_around_iff.mpr ⟨by omega, hotherOpens, fun otherLast hclosed => ?_⟩
  exact Nat.lt_trans hlt (hotherLast otherLast hclosed)

end Closed

end Around

/-- The line that closes the block of a line of the document is a line of the document that
closes a block. -/
theorem closes_of_closing? {lines : List Line} {start last : Nat}
    (h : closing? lines start = some last) :
    ∃ line, lines[last]? = some line ∧ closes line = true := by
  obtain ⟨hle, line, hline, hcloses⟩ := closes_of_closingFrom h
  rw [List.getElem?_drop, Nat.add_sub_cancel' hle] at hline
  exact ⟨line, hline, hcloses⟩

end Block

/-- A foldable block goes from a line of the text that opens a block to the line that closes
it. -/
theorem FoldingRange.closing?_of_mem {fold : FoldingRange} {text : Text}
    (h : fold ∈ ofText text) :
    (∃ line, (lines text)[fold.startLine]? = some line ∧ Block.opens line = true) ∧
      Block.closing? (lines text) fold.startLine = some fold.endLine ∧
      fold.startLine < fold.endLine := by
  obtain ⟨declared, hmem, hline⟩ := mem_ofLines_iff.mp h
  have hfrom := Declared.from_of_mem_all hmem
  obtain ⟨hopens, hclosing, hfold⟩ := ofLine?_eq_some hline
  have hstart : fold.startLine = declared.number := congrArg startLine hfold
  rw [hstart]
  exact ⟨⟨declared.line, hfrom.line, hopens⟩, (congrArg _ hfrom).trans hclosing,
    Block.lt_of_closingFrom hopens hclosing⟩

end LanguageServer
