/-
# Edits of lines

What a client does with edits that replace columns of single lines: it cuts the text at its line
feeds, replaces the columns, and puts the pieces together again. The end of a line stays as it
is, as columns count characters of the line alone. Where each line makes at most one edit of
itself, each line is changed by its own edit (`TextEdit.getElem?_inPieces_ofLines`).
-/

import LanguageServer.Proofs.Lines
import LanguageServer.Proofs.Place

namespace LanguageServer

open Text

namespace TextEdit

/-- A line and what stands before its line feed, with columns replaced. -/
def replaceIn (edit : TextEdit) (piece : Line) : Line :=
  piece.take edit.range.start.character ++ edit.newText.toList ++
    piece.drop edit.range.stop.character

/-- Lines with columns replaced. The last edit is made first, so that no edit moves the columns
of another one on its line. -/
def inPieces (edits : List TextEdit) (parts : List Line) : List Line :=
  edits.foldr (fun edit parts => parts.modify edit.range.start.line edit.replaceIn) parts

/-- A text with columns of its lines replaced. -/
def applyAll (edits : List TextEdit) (text : Text) : Text :=
  Text.ofList (joinLines (inPieces edits (pieces (.char '\n') text.toList)))

/-- A line is changed by the edits of this line. -/
theorem getElem?_inPieces (edits : List TextEdit) (parts : List Line) (number : Nat) :
    (inPieces edits parts)[number]? = (parts[number]?).map fun piece =>
      (edits.filter fun edit => edit.range.start.line = number).foldr replaceIn piece := by
  induction edits with
  | nil => simp [inPieces]
  | cons edit rest ih =>
      rw [inPieces, List.foldr_cons, ← inPieces, List.getElem?_modify, ih, List.filter_cons]
      by_cases hline : edit.range.start.line = number
      · simp [hline, Function.comp_def]
      · simp [hline]

/-- The edits of lines where each makes one of itself or none, in the order of the lines. -/
def ofLines (make : Line → Nat → Option TextEdit) (first : Nat) (lines : List Line) :
    List TextEdit :=
  (lines.zipIdx first).filterMap fun (line, number) => make line number

section OfLines

variable {make : Line → Nat → Option TextEdit}

theorem ofLines_cons (first : Nat) (line : Line) (rest : List Line) :
    ofLines make first (line :: rest) =
      (make line first).toList ++ ofLines make (first + 1) rest := by
  rw [ofLines, List.zipIdx_cons]
  cases hhead : make line first with
  | none => exact List.filterMap_cons_none hhead
  | some edit => exact List.filterMap_cons_some hhead

variable (hmake : ∀ line number edit, make line number = some edit →
  edit.range.start.line = number)

include hmake

theorem pairwise_ofLines (lines : List Line) :
    (ofLines make 0 lines).Pairwise fun a b => a.range.start.line < b.range.start.line := by
  rw [ofLines, List.pairwise_filterMap]
  refine (pairwise_zipIdx lines).imp fun hlt a ha b hb => ?_
  rwa [hmake _ _ a ha, hmake _ _ b hb]

theorem le_of_mem_ofLines {first : Nat} {lines : List Line} {edit : TextEdit}
    (h : edit ∈ ofLines make first lines) : first ≤ edit.range.start.line := by
  obtain ⟨⟨line, number⟩, hmem, hmade⟩ := List.mem_filterMap.mp h
  rw [hmake _ _ _ hmade]
  exact (List.mem_zipIdx hmem).1

/-- The edits of a line are the one that it makes. -/
theorem filter_ofLines (first : Nat) (lines : List Line) (number : Nat) :
    (ofLines make first lines).filter (fun edit => edit.range.start.line = first + number) =
      ((lines[number]?).bind (make · (first + number))).toList := by
  induction lines generalizing first number with
  | nil => rfl
  | cons line rest ih =>
      rw [ofLines_cons, List.filter_append]
      cases number with
      | zero =>
          have hhead : ((make line first).toList).filter
              (fun edit => edit.range.start.line = first) = (make line first).toList := by
            rw [List.filter_eq_self]
            intro edit hedit
            exact decide_eq_true (hmake _ _ _ (Option.mem_toList.mp hedit))
          have hrest : (ofLines make (first + 1) rest).filter
              (fun edit => edit.range.start.line = first) = [] := by
            rw [List.filter_eq_nil_iff]
            intro edit hedit hline
            have hle := le_of_mem_ofLines hmake hedit
            rw [of_decide_eq_true hline] at hle
            exact Nat.not_succ_le_self first hle
          rw [Nat.add_zero, hhead, hrest, List.append_nil]
          rfl
      | succ number =>
          have hsum : first + (number + 1) = first + 1 + number := by omega
          have hhead : ((make line first).toList).filter
              (fun edit => edit.range.start.line = first + 1 + number) = [] := by
            rw [List.filter_eq_nil_iff]
            intro edit hedit hline
            have hfirst := hmake _ _ _ (Option.mem_toList.mp hedit)
            rw [hfirst] at hline
            have hline := of_decide_eq_true hline
            omega
          rw [hsum, hhead, List.nil_append, ih, List.getElem?_cons_succ]

/-- A line is changed by the edit that it makes. -/
theorem getElem?_inPieces_ofLines (lines parts : List Line) (number : Nat) :
    (inPieces (ofLines make 0 lines) parts)[number]? = (parts[number]?).map fun piece =>
      ((lines[number]?).bind (make · number)).elim piece (replaceIn · piece) := by
  have hfilter := filter_ofLines hmake 0 lines number
  rw [Nat.zero_add] at hfilter
  rw [getElem?_inPieces, hfilter]
  cases (lines[number]?).bind (make · number) <;> rfl

/-- Where each line makes an edit of itself, and what it becomes is told by a function of the line
with its end, the edits of a text change each line by that function. -/
theorem inPieces_ofLines_eq_map {change : Line → Line} (hempty : change [] = [])
    (hchange : ∀ piece number, (make (dropReturn piece) number).elim piece (replaceIn · piece) =
      change piece) (text : Text) :
    inPieces (ofLines make 0 (lines text)) (pieces (.char '\n') text.toList) =
      (pieces (.char '\n') text.toList).map change := by
  apply List.ext_getElem?
  intro number
  rw [getElem?_inPieces_ofLines hmake, List.getElem?_map]
  cases hpiece : (pieces (.char '\n') text.toList)[number]? with
  | none => rfl
  | some piece =>
      rcases getElem?_lines_of_piece hpiece with hline | ⟨hnone, rfl⟩
      · rw [hline, Option.map_some, Option.bind_some, hchange, Option.map_some]
      · rw [hnone, Option.map_some, Option.map_some, hempty]
        rfl

end OfLines

end TextEdit

end LanguageServer
