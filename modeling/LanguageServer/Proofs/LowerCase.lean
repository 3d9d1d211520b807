/-
# Lower case of a text and of its parts

Lower case maps characters one by one, but for the capital sigma, which is final where a
word ends. A part of a text has therefore the same lower case by itself as in the text,
unless it ends in a sigma that is final only because the part ends there (`sigmaLast`) and
a cased letter follows behind it. `lowerAfter_append` and `lowerAfter_append_sigma` are
these two cases.

A blank ends a word whatever stands around it, so the lines of a text can be put into lower
case one by one (`lower_joinLines`).
-/

import LanguageServer.Proofs.Blank
import LanguageServer.Proofs.Lines

namespace LanguageServer.Text

/-- Whether a text ends in a sigma that its end makes final: a cased letter comes before the
sigma and only ignorable characters come behind it. -/
def sigmaLast (casedBefore : Bool) : List CodePoint → Bool
  | [] => false
  | c :: rest =>
      (c = 'Σ' && casedBefore && rest.all isCaseIgnorable) ||
        sigmaLast (if isCaseIgnorable c then casedBefore else isCased c) rest

/-- Whether the nearest character before the end of a text that is not ignorable is a cased
letter. -/
def casedBehind (casedBefore : Bool) (text : List CodePoint) : Bool :=
  text.foldl (fun before c => if isCaseIgnorable c then before else isCased c) casedBefore

theorem casedBehind_cons (casedBefore : Bool) (c : CodePoint) (rest : List CodePoint) :
    casedBehind casedBefore (c :: rest) =
      casedBehind (if isCaseIgnorable c then casedBefore else isCased c) rest := rfl

theorem isCaseIgnorable_sigma : isCaseIgnorable 'Σ' = false := by decide +kernel

theorem casedAhead_of_all {text : List CodePoint} (h : text.all isCaseIgnorable = true) :
    casedAhead text = false := by
  induction text with
  | nil => rfl
  | cons c rest ih =>
      rw [List.all_cons, Bool.and_eq_true] at h
      rw [casedAhead, if_pos h.1, ih h.2]

/-- Only behind ignorable characters does it matter what follows a text. -/
theorem casedAhead_append (text after : List CodePoint) :
    casedAhead (text ++ after) =
      if text.all isCaseIgnorable then casedAhead after else casedAhead text := by
  induction text with
  | nil => rfl
  | cons c rest ih =>
      rw [List.cons_append, casedAhead, casedAhead, List.all_cons]
      cases isCaseIgnorable c with
      | true => simpa using ih
      | false => rfl

/-- A sigma cannot be passed over. -/
theorem sigmaLast_of_all {text : List CodePoint} (h : text.all isCaseIgnorable = true)
    (casedBefore : Bool) : sigmaLast casedBefore text = false := by
  induction text generalizing casedBefore with
  | nil => rfl
  | cons c rest ih =>
      rw [List.all_cons, Bool.and_eq_true] at h
      have hc : c ≠ 'Σ' := by
        rintro rfl
        rw [isCaseIgnorable_sigma] at h
        cases h.1
      rw [sigmaLast, decide_eq_false hc, ih h.2]
      rfl

/-- The lower case of one character in front of a text. -/
theorem lowerAfter_cons (casedBefore : Bool) (c : CodePoint) (rest : List CodePoint) :
    lowerAfter casedBefore (c :: rest) =
      (if c = 'Σ' then [if casedBefore && !casedAhead rest then .char 'ς' else .char 'σ']
        else lowerChar c) ++
        lowerAfter (if isCaseIgnorable c then casedBefore else isCased c) rest := rfl

/-- What follows a text does not change its lower case, unless the end of the text makes a
sigma final that a cased letter follows. -/
theorem lowerAfter_append (casedBefore : Bool) (text : List CodePoint) {after : List CodePoint}
    (h : (sigmaLast casedBefore text && casedAhead after) = false) :
    lowerAfter casedBefore (text ++ after) =
      lowerAfter casedBefore text ++ lowerAfter (casedBehind casedBefore text) after := by
  induction text generalizing casedBefore with
  | nil => rfl
  | cons c rest ih =>
      have hrest : (sigmaLast (if isCaseIgnorable c then casedBefore else isCased c) rest &&
          casedAhead after) = false := by
        rw [sigmaLast] at h
        cases hafter : casedAhead after with
        | false => rw [Bool.and_false]
        | true =>
            rw [hafter, Bool.and_true, Bool.or_eq_false_iff] at h
            rw [h.2, Bool.false_and]
      have hsmall : (if c = 'Σ' then
            [if casedBefore && !casedAhead (rest ++ after) then .char 'ς' else .char 'σ']
            else lowerChar c) =
          if c = 'Σ' then [if casedBefore && !casedAhead rest then .char 'ς' else .char 'σ']
            else lowerChar c := by
        by_cases hall : rest.all isCaseIgnorable = true
        · rw [casedAhead_append, if_pos hall, casedAhead_of_all hall]
          by_cases hc : c = 'Σ'
          · rw [sigmaLast, hall, decide_eq_true hc, Bool.true_and, Bool.and_true] at h
            cases casedBefore with
            | false => rfl
            | true =>
                rw [Bool.true_or, Bool.true_and] at h
                rw [h]
          · rw [if_neg hc, if_neg hc]
        · rw [casedAhead_append, if_neg hall]
      rw [List.cons_append, lowerAfter_cons, lowerAfter_cons, hsmall, ih _ hrest,
        List.append_assoc, casedBehind_cons]

/-- A final sigma at the end of a text is not final when a cased letter follows. -/
theorem lowerAfter_append_sigma {casedBefore : Bool} {text after : List CodePoint}
    (h : sigmaLast casedBefore text = true) (hafter : casedAhead after = true) :
    ∃ front back, lowerAfter casedBefore text = front ++ .char 'ς' :: back ∧
      lowerAfter casedBefore (text ++ after) =
        front ++ .char 'σ' :: back ++ lowerAfter (casedBehind casedBefore text) after := by
  induction text generalizing casedBefore with
  | nil => cases h
  | cons c rest ih =>
      rw [List.cons_append, lowerAfter_cons, lowerAfter_cons, casedBehind_cons]
      by_cases hall : rest.all isCaseIgnorable = true
      · rw [sigmaLast, sigmaLast_of_all hall, Bool.or_false, hall, Bool.and_true,
          Bool.and_eq_true, decide_eq_true_eq] at h
        obtain ⟨rfl, rfl⟩ := h
        have hrest : (sigmaLast (if isCaseIgnorable 'Σ' then true else isCased 'Σ') rest &&
            casedAhead after) = false := by
          rw [sigmaLast_of_all hall, Bool.false_and]
        rw [if_pos rfl, if_pos rfl, casedAhead_of_all hall, casedAhead_append, if_pos hall, hafter,
          lowerAfter_append _ _ hrest]
        exact ⟨[], _, rfl, rfl⟩
      · have hrest :
            sigmaLast (if isCaseIgnorable c then casedBefore else isCased c) rest = true := by
          rw [sigmaLast, eq_false_of_ne_true hall, Bool.and_false, Bool.false_or] at h
          exact h
        obtain ⟨front, back, hlower, hlower'⟩ := ih hrest
        rw [casedAhead_append, if_neg hall, hlower, hlower']
        exact ⟨_ ++ front, back, (List.append_assoc ..).symm, by simp only [List.append_assoc]⟩

/-- A blank ends the word before it. -/
theorem lower_append_blank (before : List CodePoint) {c : CodePoint} (h : isBlank c = true)
    (after : List CodePoint) : lower (before ++ c :: after) = lower before ++ c :: lower after := by
  have hahead : casedAhead (c :: after) = false := by
    rw [casedAhead, isCaseIgnorable_of_isBlank h, isCased_of_isBlank h]
    rfl
  have hblank (casedBefore : Bool) :
      lowerAfter casedBefore (c :: after) = c :: lowerAfter false after := by
    rw [lowerAfter_cons, if_neg (ne_of_isBlank h (by decide)), lowerChar_of_isBlank h,
      isCaseIgnorable_of_isBlank h, isCased_of_isBlank h]
    rfl
  rw [lower, lowerAfter_append _ _ (by rw [hahead, Bool.and_false]), hblank, lower, lower]

theorem lower_joinLines (parts : List Line) :
    lower (joinLines parts) = joinLines (parts.map lower) := by
  induction parts with
  | nil => rfl
  | cons line rest ih =>
      cases rest with
      | nil => rw [List.map_singleton, joinLines_singleton, joinLines_singleton]
      | cons next rest =>
          rw [List.map_cons, List.map_cons, joinLines_cons_cons, joinLines_cons_cons,
            lower_append_blank _ (by decide), ih, List.map_cons]

/-- The lower case of a line is a part of the lower case of the text. -/
theorem lower_infix_of_mem_lines {text : Text} {line : Line} (h : line ∈ lines text) :
    lower line <:+: lower text.toList := by
  obtain ⟨piece, hpiece, rfl⟩ := List.mem_map.mp h
  have hline : lower (dropReturn piece) <:+: lower piece := by
    rcases eq_or_eq_concat_of_dropReturn piece with hsame | hreturn
    · exact congrArg lower hsame ▸ List.infix_rfl
    · have hlower := lower_append_blank (dropReturn piece) (c := '\r') (by decide) []
      rw [← hreturn] at hlower
      exact hlower ▸ (List.prefix_append _ _).isInfix
  refine hline.trans ?_
  rw [← joinLines_pieces text.toList, lower_joinLines]
  exact infix_joinLines (List.mem_map_of_mem (mem_of_mem_dropEmptyLast hpiece))

end LanguageServer.Text
