/-
# Indenting a second time

A text that has been indented is not a fixed point yet. It ends without a line feed, so a last
line that indenting leaves without characters is no line of it any more, and of the returns at
the end of a line one is taken for the line's end each time the lines are read. A second pass
does nothing but join the lines it reads, and it changes a text exactly in these two ways
(`Indentation.second_pass_changes_exactly`).
-/

import LanguageServer.Proofs.Formatting
import LanguageServer.Proofs.IndentLevel

namespace LanguageServer

open Text

namespace Text

theorem dropReturn_eq_self_iff {line : Line} :
    dropReturn line = line ↔ line.getLast? ≠ some (.char '\r') := by
  constructor
  · intro h hlast
    obtain ⟨front, rfl⟩ := List.getLast?_eq_some_iff.mp hlast
    have hlength := congrArg List.length h
    rw [dropReturn_concat, List.length_append, List.length_singleton] at hlength
    omega
  · exact dropReturn_of_getLast?

theorem dropReturn_append {front : Line} (h : front.getLast? ≠ some (.char '\r')) (back : Line) :
    dropReturn (front ++ back) = front ++ dropReturn back := by
  by_cases hback : back = []
  · rw [hback, List.append_nil, dropReturn_of_getLast? h]
    exact (List.append_nil front).symm
  · rw [dropReturn, dropReturn, List.getLast?_append_of_ne_nil front hback,
      List.dropLast_append_of_ne_nil hback]
    split <;> rfl

theorem contains_dropReturn {brace : CodePoint} (hbrace : brace ≠ '\r') (line : Line) :
    (dropReturn line).contains brace = line.contains brace := by
  rcases eq_or_eq_concat_of_dropReturn line with heq | heq
  · rw [heq]
  · have hreturn : List.contains [.char '\r'] brace = false := by
      rw [List.contains_eq_mem, decide_eq_false_iff_not, List.mem_singleton]
      exact hbrace
    conv_rhs => rw [heq, List.contains_append, hreturn, Bool.or_false]

theorem getLast?_trimStart {line : Line} (h : trimStart line ≠ []) :
    (trimStart line).getLast? = line.getLast? := by
  conv_rhs => rw [← leadingBlanks_append_trimStart line, List.getLast?_append_of_ne_nil _ h]

/-- The return at the end of a line is a blank among others, so both can be taken off in any
order. -/
theorem trimStart_dropReturn (line : Line) :
    trimStart (dropReturn line) = dropReturn (trimStart line) := by
  by_cases hlast : line.getLast? = some (.char '\r')
  · obtain ⟨front, rfl⟩ := List.getLast?_eq_some_iff.mp hlast
    rw [dropReturn_concat, trimStart, trimStart, List.dropWhile_append]
    split
    · next hblank =>
        rw [List.isEmpty_iff.mp hblank]
        rfl
    · exact (dropReturn_concat _).symm
  · rw [dropReturn_of_getLast? hlast]
    by_cases hblank : trimStart line = []
    · rw [hblank]
      rfl
    · rw [dropReturn_of_getLast?]
      rwa [getLast?_trimStart hblank]

/-- Joining keeps the lines apart. -/
theorem joinLines_inj {parts parts' : List Line} (hne : parts ≠ []) (hne' : parts' ≠ [])
    (h : ∀ line ∈ parts, .char '\n' ∉ line) (h' : ∀ line ∈ parts', .char '\n' ∉ line) :
    joinLines parts = joinLines parts' ↔ parts = parts' := by
  refine ⟨fun heq => ?_, congrArg joinLines⟩
  rw [← pieces_joinLines hne h, heq, pieces_joinLines hne' h']

/-- Lines that are joined are the same text after they have been read back, unless there is an
empty line behind others at the end, or a return at the end of one. -/
theorem joinLines_read_back_iff {parts : List Line} (h : ∀ line ∈ parts, .char '\n' ∉ line) :
    joinLines ((dropEmptyLast parts).map dropReturn) = joinLines parts ↔
      ¬(1 < parts.length ∧ parts.getLast? = some []) ∧
        ∀ line ∈ parts, line.getLast? ≠ some (.char '\r') := by
  by_cases hnil : parts = []
  · rw [hnil]
    exact iff_of_true rfl (by decide)
  have hread : ∀ parts', parts' ≠ [] → (∀ line ∈ parts', line ∈ parts) →
      (joinLines (parts'.map dropReturn) = joinLines parts ↔ parts'.map dropReturn = parts) := by
    intro parts' hne hsub
    refine joinLines_inj (mt List.map_eq_nil_iff.mp hne) hnil (fun line hline => ?_) h
    obtain ⟨whole, hwhole, rfl⟩ := List.mem_map.mp hline
    exact fun hfeed => h whole (hsub whole hwhole) (mem_of_mem_dropReturn hfeed)
  -- An empty last line is not read back, and then the numbers of lines differ.
  by_cases hlast : parts.getLast? = some []
  · obtain ⟨before, rfl⟩ := List.getLast?_eq_some_iff.mp hlast
    rw [dropEmptyLast, if_pos hlast, List.dropLast_concat]
    by_cases hbefore : before = []
    · rw [hbefore]
      exact iff_of_true rfl (by decide)
    · refine iff_of_false (fun heq => ?_) fun hkept => hkept.1 ⟨?_, hlast⟩
      · rw [hread before hbefore fun line hline => List.mem_append_left _ hline] at heq
        have hlength := congrArg List.length heq
        rw [List.length_map, List.length_append, List.length_singleton] at hlength
        omega
      · have hlength := List.length_pos_iff.mpr hbefore
        rw [List.length_append, List.length_singleton]
        omega
  · rw [dropEmptyLast, if_neg hlast, hread parts hnil fun _ => id,
      and_iff_right fun hlost => hlast hlost.2]
    conv_lhs => rhs; rw [← List.map_id parts]
    rw [List.map_inj_left]
    simp only [id, dropReturn_eq_self_iff]

end Text

namespace Indentation

/-- Some lines lose the last one when they are indented, joined and read again: it is empty, or
it consists of blanks and no block is open around it. A line that is the only one is lost as
well, but the text is empty with it and without it. -/
def LosesLine (lines : List Line) : Prop :=
  1 < lines.length ∧ ∃ last, lines.getLast? = some last ∧
    (last = [] ∨ trimStart last = [] ∧ Block.around lines (lines.length - 1) = ∅)

/-- One of some lines loses a return at its end when they are indented, joined and read again.
Blank lines lose it at once. -/
def LosesReturn (lines : List Line) : Prop :=
  ∃ line ∈ lines, trimStart line ≠ [] ∧ line.getLast? = some (.char '\r')

theorem dropReturn_atLevel (level : Nat) (line : Line) :
    dropReturn (atLevel level line) = atLevel level (dropReturn line) := by
  have hblanks :
      (List.replicate (level * width) (CodePoint.char ' ')).getLast? ≠ some (.char '\r') := by
    intro hlast
    exact absurd (List.eq_of_mem_replicate (List.mem_of_getLast? hlast)) (by decide)
  rw [atLevel, dropReturn_append hblanks, ← trimStart_dropReturn, ← atLevel]

/-- The first lines are indented as they are among more lines. -/
theorem fromLevel_take (level : Nat) (lines : List Line) (count : Nat) :
    fromLevel level (lines.take count) = (fromLevel level lines).take count := by
  induction lines generalizing level count with
  | nil => rw [List.take_nil, fromLevel, List.take_nil]
  | cons line rest ih =>
      obtain ⟨line', level', hcons⟩ := exists_fromLevel_cons level line
      cases count with
      | zero => rw [List.take_zero, List.take_zero, fromLevel]
      | succ count => rw [List.take_succ_cons, hcons, hcons, ih, List.take_succ_cons]

theorem isEmpty_dropReturn {line : Line} (h : line ≠ [.char '\r']) :
    (dropReturn line).isEmpty = line.isEmpty := by
  rcases eq_or_eq_concat_of_dropReturn line with heq | heq
  · rw [heq]
  · cases hfront : dropReturn line with
    | nil =>
        rw [hfront] at heq
        exact absurd heq h
    | cons c front =>
        rw [heq, hfront]
        rfl

/-- Taking off the returns at the ends of lines does not change how they are indented, but for
a line that has nothing else. -/
theorem fromLevel_map_dropReturn (level : Nat) {lines : List Line} (h : [.char '\r'] ∉ lines) :
    fromLevel level (lines.map dropReturn) = (fromLevel level lines).map dropReturn := by
  induction lines generalizing level with
  | nil => rfl
  | cons line rest ih =>
      rw [List.mem_cons, not_or] at h
      have hopens : Block.opens (dropReturn line) = Block.opens line :=
        contains_dropReturn (by decide) line
      have hcloses : Block.closes (dropReturn line) = Block.closes line := by
        rw [Block.closes, Block.closes, hopens, contains_dropReturn (by decide)]
      simp only [List.map_cons, fromLevel, isEmpty_dropReturn (Ne.symm h.1), hopens, hcloses,
        ih _ h.2, ← dropReturn_atLevel]
      split
      · rfl
      · split
        · rfl
        · split <;> rfl

theorem eq_atLevel_of_mem_fromLevel {lines : List Line} {line' : Line}
    (h : line' ∈ fromLevel 0 lines) :
    line' = [] ∨ ∃ level, ∃ line ∈ lines, line' = atLevel level line := by
  rw [fromLevel_eq_byBlocks, byBlocks] at h
  obtain ⟨number, hnumber, rfl⟩ := List.mem_mapIdx.mp h
  split
  · exact Or.inl rfl
  · refine Or.inr ⟨(Block.around lines number).card, _, List.getElem_mem hnumber, ?_⟩
    rw [atLevel, width, Nat.mul_comm]

/-- A line has a return at its end behind its indentation if it had it before and is not blank. -/
theorem getLast?_atLevel_eq_return_iff {level : Nat} {line : Line} :
    (atLevel level line).getLast? = some (.char '\r') ↔
      trimStart line ≠ [] ∧ line.getLast? = some (.char '\r') := by
  by_cases hblank : trimStart line = []
  · refine iff_of_false (fun hlast => ?_) fun h => h.1 hblank
    rw [atLevel, hblank, List.append_nil] at hlast
    exact absurd (List.eq_of_mem_replicate (List.mem_of_getLast? hlast)) (by decide)
  · rw [atLevel, List.getLast?_append_of_ne_nil _ hblank, getLast?_trimStart hblank]
    exact (and_iff_right hblank).symm

/-- A line that is nothing but a return is blank, and is left without it. -/
theorem return_not_mem_fromLevel (lines : List Line) : [.char '\r'] ∉ fromLevel 0 lines := by
  intro hmem
  rcases eq_atLevel_of_mem_fromLevel hmem with hnil | ⟨level, line, -, heq⟩
  · cases hnil
  · have hlast := getLast?_atLevel_eq_return_iff.mp (congrArg List.getLast? heq).symm
    rw [← trimStart_atLevel level, ← heq] at hlast
    exact hlast.1 (by decide)

/-- The lines of a text that has been indented are the indented lines, up to an empty last one
and the returns at their ends. -/
theorem lines_reindent_eq (text : Text) :
    lines (reindent text) = (dropEmptyLast (fromLevel 0 (lines text))).map dropReturn := by
  rw [lines, reindent,
    splitLines_joinLines fun line => feed_not_mem_fromLevel]

/-- The lines of a text that has been indented stay as they are when they are indented. -/
theorem fromLevel_lines_reindent (text : Text) :
    fromLevel 0 (lines (reindent text)) = lines (reindent text) := by
  have hkept : fromLevel 0 (dropEmptyLast (fromLevel 0 (lines text))) =
      dropEmptyLast (fromLevel 0 (lines text)) := by
    rw [dropEmptyLast]
    split
    · rw [List.dropLast_eq_take, fromLevel_take, fromLevel_fromLevel]
    · exact fromLevel_fromLevel 0 (lines text)
  have hreturn : [.char '\r'] ∉ dropEmptyLast (fromLevel 0 (lines text)) := fun hmem =>
    return_not_mem_fromLevel (lines text) (mem_of_mem_dropEmptyLast hmem)
  rw [lines_reindent_eq, fromLevel_map_dropReturn 0 hreturn, hkept]

theorem losesLine_iff (lines : List Line) :
    LosesLine lines ↔
      1 < (fromLevel 0 lines).length ∧ (fromLevel 0 lines).getLast? = some [] := by
  rw [LosesLine, fromLevel_eq_byBlocks, byBlocks, List.length_mapIdx, List.getLast?_mapIdx,
    Option.map_eq_some_iff]
  refine and_congr_right fun _ => exists_congr fun last => and_congr_right fun _ => ?_
  split
  · next hempty => exact iff_of_true (Or.inl hempty) rfl
  · next hempty =>
      rw [or_iff_right hempty, List.append_eq_nil_iff, List.replicate_eq_nil_iff, and_comm,
        Nat.mul_eq_zero, or_iff_right (by decide), Finset.card_eq_zero]

theorem losesReturn_iff (lines : List Line) :
    LosesReturn lines ↔ ∃ line ∈ fromLevel 0 lines, line.getLast? = some (.char '\r') := by
  constructor
  · rintro ⟨line, hline, hblank, hlast⟩
    obtain ⟨number, hnumber⟩ := List.mem_iff_getElem?.mp hline
    have hne : line ≠ [] := by
      rintro rfl
      exact hblank rfl
    have hget := getElem?_byBlocks hnumber hne
    rw [← fromLevel_eq_byBlocks] at hget
    exact ⟨_, List.mem_of_getElem? hget, getLast?_atLevel_eq_return_iff.mpr ⟨hblank, hlast⟩⟩
  · rintro ⟨line', hline', hlast⟩
    rcases eq_atLevel_of_mem_fromLevel hline' with rfl | ⟨level, line, hline, rfl⟩
    · cases hlast
    · exact ⟨line, hline, getLast?_atLevel_eq_return_iff.mp hlast⟩

/-- A second pass joins the lines that it reads, and does nothing else. It changes a text that
has been indented exactly if the lines lose one of them at the end, or a return. -/
theorem second_pass_changes_exactly (text : Text) :
    reindent (reindent text) = Text.ofList (joinLines (lines (reindent text))) ∧
      (reindent (reindent text) ≠ reindent text ↔
        LosesLine (lines text) ∨ LosesReturn (lines text)) := by
  have hsecond : reindent (reindent text) = Text.ofList (joinLines (lines (reindent text))) := by
    rw [reindent, fromLevel_lines_reindent]
  refine ⟨hsecond, ?_⟩
  have hkept := joinLines_read_back_iff fun line (hline : line ∈ fromLevel 0 (lines text)) =>
    feed_not_mem_fromLevel hline
  rw [← lines_reindent_eq, ← Text.ofList.injEq, ← reindent] at hkept
  rw [hsecond, losesLine_iff, losesReturn_iff, Ne, hkept, not_and_or, not_not]
  simp only [not_forall, exists_prop, Ne, not_not]

/-- An empty line at the end is kept by the first pass and lost by the second. -/
theorem empty_line_lost :
    reindent "a\n\n" = "a\n" ∧ reindent "a\n" = "a" ∧
      reindent (reindent "a\n\n") ≠ reindent "a\n\n" := by
  refine ⟨by decide +kernel, by decide +kernel, ?_⟩
  refine (second_pass_changes_exactly "a\n\n").2.mpr
    (Or.inl ⟨by decide +kernel, [], ?_, Or.inl rfl⟩)
  decide +kernel

end Indentation

end LanguageServer
