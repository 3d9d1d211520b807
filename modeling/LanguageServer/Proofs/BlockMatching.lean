/-
# Foldable blocks are matched by one pass

The line that closes a block is looked for from each opening line anew, with a depth of its
own. Taken together these searches match opening and closing lines as one pass over the lines
does that keeps the first lines of the open blocks on a stack
(`FoldingRange.folds_match_in_one_pass`). So no two blocks cross, and no line closes two of
them.
-/

import LanguageServer.Proofs.ByNumber.Block
import LanguageServer.Proofs.OpenBlock
import LanguageServer.Proofs.Reindent

namespace LanguageServer

open Text

/-- A column of a line is the first one with a character. -/
def Text.FirstAt (c : CodePoint) (text : Line) (column : Nat) : Prop :=
  text[column]? = some c ∧ c ∉ text.take column

theorem Text.firstAt_idxOf {c : CodePoint} {text : Line} (h : text.contains c = true) :
    FirstAt c text (text.idxOf c) := by
  have hmem := List.contains_iff_mem.mp h
  have hlt := List.idxOf_lt_length_iff.mpr hmem
  refine ⟨?_, fun htake => ?_⟩
  · rw [List.getElem?_eq_getElem hlt, List.getElem_idxOf hlt]
  · exact absurd ((List.mem_take_iff_idxOf_lt hmem).mp htake) (Nat.lt_irrefl _)

namespace Block

/-- The first and the last lines of the blocks that are closed on some lines, in the order of
the last ones, where the first lines of the open blocks are on a stack. A line that opens a block
is pushed on it. A line that closes a block is paired with the line it pops, and passed over
where the stack is empty. -/
def matchedFrom (number : Nat) (stack : List Nat) : List Line → List (Nat × Nat)
  | [] => []
  | line :: rest =>
      if opens line then matchedFrom (number + 1) (number :: stack) rest
      else if closes line then
        match stack with
        | [] => matchedFrom (number + 1) [] rest
        | start :: outer => (start, number) :: matchedFrom (number + 1) outer rest
      else matchedFrom (number + 1) stack rest

/-- The first and the last lines of the closed blocks of a document. -/
def matched (lines : List Line) : List (Nat × Nat) :=
  matchedFrom 0 [] lines

/-- The block that a line closes of those that are open in front of it. -/
def closedBy (line : Line) (stack : List Nat) : Option Nat :=
  if closes line then stack.head? else none

theorem matchedFrom_cons (number : Nat) (stack : List Nat) (line : Line) (rest : List Line) :
    matchedFrom number stack (line :: rest) =
      ((closedBy line stack).map (·, number)).toList ++
        matchedFrom (number + 1) (openAfter number line stack) rest := by
  conv_lhs => unfold matchedFrom
  rw [closedBy, openAfter, leave]
  split
  · next hopens =>
      rw [closes_eq_false_of_opens hopens]
      rfl
  · split
    · cases stack <;> rfl
    · rfl

section Lines

variable {lines rest : List Line} {number start last : Nat} {line : Line}

/-- From each line on, the stack holds the blocks that are open in front of it. -/
theorem matchedFrom_openBefore (h : lines.drop number = rest) :
    matchedFrom number (openBefore lines number) rest =
      (rest.zipIdx number).filterMap fun (line, number) =>
        (closedBy line (openBefore lines number)).map (·, number) := by
  induction rest generalizing number with
  | nil => rfl
  | cons line rest ih =>
      have hline := getElem?_of_drop h
      rw [matchedFrom_cons, ← openBefore_succ hline, ih (drop_succ_of_drop h),
        List.zipIdx_cons, List.filterMap_cons]
      dsimp only
      cases closedBy line (openBefore lines number) <;> rfl

theorem matched_eq_filterMap (lines : List Line) :
    matched lines = lines.zipIdx.filterMap fun (line, number) =>
      (closedBy line (openBefore lines number)).map (·, number) :=
  matchedFrom_openBefore List.drop_zero

theorem lt_of_closing? (hopens : opensAt lines start = true)
    (h : closing? lines start = some last) : start < last := by
  obtain ⟨line, hline, hline'⟩ := (Option.any_eq_true _ _).mp hopens
  rw [closing?, drop_of_getElem? hline] at h
  exact lt_of_closingFrom hline' h

/-- The search for the end of a block ends at the line in front of which the block is open and
behind which it is not. -/
theorem closing?_eq_some_iff (hlt : number < lines.length) :
    opensAt lines start = true ∧ closing? lines start = some number ↔
      start ∈ openBefore lines number ∧ start ∉ openBefore lines (number + 1) := by
  rw [mem_openBefore_iff hlt, mem_openBefore_iff (Nat.le_of_lt hlt)]
  constructor
  · rintro ⟨hopens, hclosing⟩
    refine ⟨⟨lt_of_closing? hopens hclosing, hopens, fun last hlast => ?_⟩, fun hbehind => ?_⟩
    · rw [hclosing] at hlast
      exact Nat.le_of_eq (Option.some.inj hlast)
    · exact absurd (hbehind.2.2 number hclosing) (Nat.not_succ_le_self number)
  · rintro ⟨⟨hbefore, hopens, hlast⟩, hbehind⟩
    have hshort : ∃ last, closing? lines start = some last ∧ last < number + 1 := by
      by_contra hnone
      refine hbehind ⟨Nat.lt_succ_of_lt hbefore, hopens, fun last hclosing => ?_⟩
      exact Nat.le_of_not_lt fun hlt => hnone ⟨last, hclosing, hlt⟩
    obtain ⟨last, hclosing, hle⟩ := hshort
    obtain rfl := Nat.le_antisymm (hlast last hclosing) (Nat.le_of_lt_succ hle)
    exact ⟨hopens, hclosing⟩

/-- A line closes the block whose search ends there, and no other one. -/
theorem closedBy_eq_some_iff (hline : lines[number]? = some line) :
    closedBy line (openBefore lines number) = some start ↔
      opensAt lines start = true ∧ closing? lines start = some number := by
  have hlt := (List.getElem?_eq_some_iff.mp hline).1
  have hdescending := (stacked_openBefore (Nat.le_of_lt hlt)).descending
  rw [closing?_eq_some_iff hlt, openBefore_succ hline, openAfter, leave, closedBy]
  cases hcloses : closes line with
  | true =>
      rw [opens_eq_false_of_closes hcloses]
      cases hstack : openBefore lines number with
      | nil => simp
      | cons top outer =>
          rw [hstack] at hdescending
          have htop : top ∉ outer := fun hmem =>
            absurd ((List.pairwise_cons.mp hdescending).1 top hmem) (Nat.lt_irrefl _)
          by_cases hstart : start = top
          · simp [hstart, htop]
          · simp [hstart, Ne.symm hstart]
  | false =>
      -- What is open in front of the line is open behind it as well.
      refine iff_of_false (fun h => by cases h) ?_
      rintro ⟨hmem, hbehind⟩
      refine hbehind ?_
      split
      · exact List.mem_cons_of_mem _ hmem
      · exact hmem

theorem mem_matched_iff :
    (start, last) ∈ matched lines ↔
      opensAt lines start = true ∧ closing? lines start = some last := by
  rw [matched_eq_filterMap]
  refine (mem_zipIdx_filterMap_iff (f := fun line number =>
    (closedBy line (openBefore lines number)).map (·, number))).trans ?_
  constructor
  · rintro ⟨number, line, hline, hfound⟩
    obtain ⟨found, hclosed, heq⟩ := Option.map_eq_some_iff.mp hfound
    cases heq
    exact (closedBy_eq_some_iff hline).mp hclosed
  · intro h
    obtain ⟨line, hline, -⟩ := closes_of_closing? h.2
    exact ⟨last, line, hline, Option.map_eq_some_iff.mpr
      ⟨start, (closedBy_eq_some_iff hline).mpr h, rfl⟩⟩

/-- No line closes two blocks. -/
theorem pairwise_matched (lines : List Line) :
    (matched lines).Pairwise fun a b => a.2 < b.2 := by
  rw [matched_eq_filterMap, List.pairwise_filterMap]
  refine (pairwise_zipIdx lines).imp fun hlt a ha b hb => ?_
  obtain ⟨_, -, rfl⟩ := Option.map_eq_some_iff.mp ha
  obtain ⟨_, -, rfl⟩ := Option.map_eq_some_iff.mp hb
  exact hlt

end Lines

end Block

namespace FoldingRange

variable {text : Text} {fold : FoldingRange}

/-- A foldable block starts with the first opening brace of its first line, and ends with the
first closing brace of its last line. -/
structure Braced (fold : FoldingRange) (lines : List Line) : Prop where
  start : ∃ line, lines[fold.startLine]? = some line ∧ FirstAt '\x7b' line fold.startCharacter
  stop : ∃ line, lines[fold.endLine]? = some line ∧ FirstAt '\x7d' line fold.endCharacter

theorem braced_of_mem (h : fold ∈ ofText text) : fold.Braced (lines text) := by
  obtain ⟨-, first, last, hfirst, hopens, hstart, hlast, hcloses, hstop⟩ := exists_lines_of_mem h
  refine ⟨⟨first, hfirst, ?_⟩, ⟨last, hlast, ?_⟩⟩
  · rw [hstart]
    exact firstAt_idxOf hopens
  · rw [hstop]
    exact firstAt_idxOf (Bool.and_eq_true_iff.mp hcloses).2

/-- The foldable blocks of a text are its closed blocks. -/
theorem mem_span_iff {start last : Nat} :
    (start, last) ∈ (ofText text).map span ↔
      Block.opensAt (lines text) start = true ∧ Block.closing? (lines text) start = some last := by
  constructor
  · intro h
    obtain ⟨fold, hfold, heq⟩ := List.mem_map.mp h
    cases heq
    obtain ⟨⟨line, hline, hopens⟩, hclosing, -⟩ := closing?_of_mem hfold
    exact ⟨(Block.opensAt_eq hline).trans hopens, hclosing⟩
  · rintro ⟨hopens, hclosing⟩
    obtain ⟨line, hline, hopensLine⟩ := (Option.any_eq_true _ _).mp hopens
    have hlt := Block.lt_of_closing? hopens hclosing
    have hdrop := drop_of_getElem? hline
    have hspan : (ofLine? start line ((lines text).drop (start + 1))).map span =
        some (start, last) := by
      rw [Block.closing?, hdrop] at hclosing
      rw [span_ofLine?, if_pos hopensLine, hclosing, Option.filter_some,
        if_pos (decide_eq_true (Nat.ne_of_gt hlt))]
      rfl
    obtain ⟨fold, hfold, heq⟩ := Option.map_eq_some_iff.mp hspan
    refine List.mem_map.mpr ⟨fold, mem_ofLines_iff.mpr ⟨⟨start, line, _⟩, ?_, hfold⟩, heq⟩
    exact Declared.mem_all_iff.mpr ⟨Nat.zero_le _, hdrop⟩

theorem pairwise_startLine (text : Text) :
    (ofText text).Pairwise fun a b => a.startLine < b.startLine := by
  rw [ofText, ofLines_eq, Declared.all_eq_map, List.flatMap_map, List.pairwise_flatMap]
  refine ⟨fun entry _ => ?_, ?_⟩
  · cases ofLine? entry.2 entry.1 ((lines text).drop (entry.2 + 1 - 0)) with
    | none => exact List.Pairwise.nil
    | some fold => exact List.pairwise_singleton ..
  · refine (pairwise_zipIdx _).imp fun hlt a ha b hb => ?_
    rw [(ofLine?_eq_some (Option.mem_toList.mp ha)).2.2,
      (ofLine?_eq_some (Option.mem_toList.mp hb)).2.2]
    exact hlt

/-- Of two foldable blocks the later one starts behind the end of the earlier one or ends before
it. -/
theorem endLine_lt_of_startLine_lt {a b : FoldingRange} (ha : a ∈ ofText text)
    (hb : b ∈ ofText text) (hlt : a.startLine < b.startLine) :
    a.endLine < b.startLine ∨ b.endLine < a.endLine := by
  obtain ⟨⟨first, hfirst, hopens⟩, hclosing, -⟩ := closing?_of_mem ha
  obtain ⟨⟨first', hfirst', hopens'⟩, hclosing', -⟩ := closing?_of_mem hb
  refine (Nat.lt_or_ge a.endLine b.startLine).imp_right fun hle => ?_
  obtain ⟨inner, hinner, hlast⟩ := Block.exists_closing?_lt ((Block.opensAt_eq hfirst).trans hopens)
    ((Block.opensAt_eq hfirst').trans hopens') hlt hclosing hle
  rw [hclosing'] at hlast
  cases hlast
  exact hinner

/-- The first and the last lines of the foldable blocks of a text are those that one pass with a
stack pairs. The blocks come in the order of their first lines, each from the first opening brace
of its first line to the first closing brace of a later line. No two of them end on one line, and
of two blocks the one that starts later lies behind the other one or inside it. -/
theorem folds_match_in_one_pass (text : Text) :
    ((ofText text).map span).Perm (Block.matched (lines text)) ∧
      ((ofText text).Pairwise fun a b => a.startLine < b.startLine) ∧
      (∀ fold ∈ ofText text, fold.startLine < fold.endLine ∧ fold.Braced (lines text)) ∧
      (ofText text).Pairwise fun a b =>
        a.endLine ≠ b.endLine ∧ (a.endLine < b.startLine ∨ b.endLine < a.endLine) := by
  have hstarts := pairwise_startLine text
  have hspans : ((ofText text).map span).Nodup := by
    refine List.Pairwise.map span (fun a b hlt heq => ?_) hstarts
    exact Nat.ne_of_lt hlt (congrArg Prod.fst heq)
  have hmatched : (Block.matched (lines text)).Nodup := by
    refine (Block.pairwise_matched (lines text)).imp fun hlt heq => ?_
    exact Nat.ne_of_lt hlt (congrArg Prod.snd heq)
  refine ⟨?_, hstarts, fun fold hfold => ⟨(exists_lines_of_mem hfold).1, braced_of_mem hfold⟩, ?_⟩
  · rw [List.perm_ext_iff_of_nodup hspans hmatched]
    rintro ⟨start, last⟩
    rw [mem_span_iff, Block.mem_matched_iff]
  · refine hstarts.imp_of_mem fun ha hb hlt => ?_
    have hapart := endLine_lt_of_startLine_lt ha hb hlt
    have hlater := (exists_lines_of_mem hb).1
    exact ⟨by omega, hapart⟩

end FoldingRange

end LanguageServer
