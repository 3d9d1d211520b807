/-
# The level of a line is the number of blocks around it

Indenting goes through the lines once, with the level as a counter that stops at zero. The
level of a line is the number of the blocks around it, each of which is matched by a search of
its own (`Indentation.level_counts_blocks`). So the two ends of a block that can be folded
stand at one column, and what is between them stands further to the right.
-/

import LanguageServer.Proofs.OpenBlock
import LanguageServer.Proofs.Reindent

namespace LanguageServer.Indentation

open Text

/-- The lines, each behind four blanks for every block around it. Lines without characters are
left alone. -/
def byBlocks (lines : List Line) : List Line :=
  lines.mapIdx fun number line =>
    if line = [] then []
    else
      List.replicate (4 * (Block.around lines number).card) (CodePoint.char ' ') ++ trimStart line

/-- The number of blanks that the line of a number starts with. -/
def blanksAt (lines : List Line) (number : Nat) : Nat :=
  (leadingBlanks (lines.getD number [])).length

theorem leadingBlanks_atLevel (level : Nat) (line : Line) :
    leadingBlanks (atLevel level line) = List.replicate (level * width) (.char ' ') := by
  have hrest : leadingBlanks (trimStart line) = [] := by
    have happend := leadingBlanks_append_trimStart (trimStart line)
    rw [trimStart_trimStart] at happend
    exact List.append_left_eq_self.mp happend
  rw [atLevel, leadingBlanks, List.takeWhile_append_of_pos, ← leadingBlanks, hrest,
    List.append_nil]
  intro c hc
  rw [List.eq_of_mem_replicate hc]
  decide

section Lines

variable {lines rest : List Line} {number : Nat} {line : Line}

/-- A line stands at the level that it leaves of the one in front of it. -/
theorem fromLevel_cons (number : Nat) (line : Line) (stack : List Nat) (rest : List Line) :
    fromLevel stack.length (line :: rest) =
      (if line = [] then [] else atLevel (Block.leave line stack).length line) ::
        fromLevel (Block.openAfter number line stack).length rest := by
  rw [fromLevel, Block.openAfter]
  split
  · next hempty =>
      cases List.isEmpty_iff.mp hempty
      rfl
  · next hempty =>
      rw [if_neg (mt List.isEmpty_iff.mpr hempty)]
      split
      · next hopens => rw [Block.leave_of_opens hopens, List.length_cons]
      · rw [Block.leave]
        split
        · rw [List.length_tail]
        · rfl

/-- From each line on, the level is the number of the blocks that are open in front of it. -/
theorem fromLevel_openBefore (h : lines.drop number = rest) :
    fromLevel (Block.openBefore lines number).length rest =
      (rest.zipIdx number).map fun entry =>
        if entry.1 = [] then []
        else atLevel (Block.around lines entry.2).card entry.1 := by
  induction rest generalizing number with
  | nil => rfl
  | cons line rest ih =>
      have hline := getElem?_of_drop h
      rw [fromLevel_cons number, List.zipIdx_cons, List.map_cons, Block.card_around hline,
        ← Block.openBefore_succ hline, ih (drop_succ_of_drop h)]

theorem fromLevel_eq_byBlocks (lines : List Line) : fromLevel 0 lines = byBlocks lines := by
  have hlevels := fromLevel_openBefore (List.drop_zero : lines.drop 0 = lines)
  rw [byBlocks, List.mapIdx_eq_zipIdx_map]
  refine hlevels.trans (List.map_congr_left fun entry _ => ?_)
  rw [atLevel, width, Nat.mul_comm]

theorem getElem?_byBlocks (h : lines[number]? = some line) (hne : line ≠ []) :
    (byBlocks lines)[number]? = some (atLevel (Block.around lines number).card line) := by
  rw [byBlocks, List.getElem?_mapIdx, h, Option.map_some, if_neg hne, atLevel, width,
    Nat.mul_comm]

theorem blanksAt_byBlocks (h : lines[number]? = some line) (hne : line ≠ []) :
    blanksAt (byBlocks lines) number = (Block.around lines number).card * width := by
  rw [blanksAt, List.getD_eq_getElem?_getD, getElem?_byBlocks h hne, Option.getD_some,
    leadingBlanks_atLevel, List.length_replicate]

end Lines

/-- A text is indented line by line, each line by four blanks for every block around it: for
every line before it that opens a block which is not closed up to it. In particular the first
and the last line of a block that can be folded start with the same number of blanks, and the
lines between them that are not empty start with more. -/
theorem level_counts_blocks (text : Text) :
    reindent text = Text.ofList (joinLines (byBlocks (lines text))) ∧
      ∀ fold ∈ FoldingRange.ofText text,
        blanksAt (byBlocks (lines text)) fold.endLine =
            blanksAt (byBlocks (lines text)) fold.startLine ∧
          ∀ number line, fold.startLine < number → number < fold.endLine →
            (lines text)[number]? = some line → line ≠ [] →
              blanksAt (byBlocks (lines text)) fold.startLine <
                blanksAt (byBlocks (lines text)) number := by
  refine ⟨by rw [reindent, fromLevel_eq_byBlocks], ?_⟩
  intro fold hfold
  obtain ⟨⟨first, hfirst, hopens⟩, hclosing, hlt⟩ := FoldingRange.closing?_of_mem hfold
  obtain ⟨last, hlast, hcloses⟩ := Block.closes_of_closing? hclosing
  have hopensAt := (Block.opensAt_eq hfirst).trans hopens
  have hfirstBlanks := blanksAt_byBlocks hfirst (ne_nil_of_marks rfl hopens)
  have hlastBlanks := blanksAt_byBlocks hlast (ne_nil_of_marks rfl hcloses)
  constructor
  · rw [hfirstBlanks, hlastBlanks, Block.around_last hopensAt hclosing hlt]
  · intro number line hafter hbefore hline hne
    have hmore := Finset.card_lt_card (Block.around_ssubset hopensAt hclosing hafter hbefore)
    rw [hfirstBlanks, blanksAt_byBlocks hline hne]
    exact Nat.mul_lt_mul_of_pos_right hmore (by decide)

end LanguageServer.Indentation
