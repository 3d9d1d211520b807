/-
# The braces of a selected block

The opening brace of a block is looked for in front of the statement that the cursor is in, and
the closing one behind it. What stands between each brace and the statement is balanced, so
the two braces belong together exactly where the braces of the statement itself are
balanced (`Selection.block_matches_exactly`). A statement is cut out at semicolons of one line,
so it may well begin or end inside a block.
-/

import LanguageServer.Proofs.SelectionChain
import Mathlib.Data.List.Count

namespace LanguageServer

open Text

namespace Position

theorem before_trans {p q r : Position} (h : p.before q = true) (h' : q.before r = true) :
    p.before r = true := by
  rw [before_iff] at h h' ⊢
  omega

theorem not_notAfter_of_before {p q : Position} (h : p.before q = true) : ¬q.NotAfter p := by
  rw [before_iff] at h
  rw [NotAfter]
  omega

/-- The places from one character through another one. -/
theorem from_through_iff {p q r : Position} :
    (!r.before p && r.before ⟨q.line, q.character + 1⟩) = true ↔ p.NotAfter r ∧ r.NotAfter q := by
  simp only [Bool.and_eq_true, Bool.not_eq_true', ← Bool.not_eq_true, before_iff, NotAfter]
  omega

theorem not_before_of_notAfter {p q r : Position} (h : p.NotAfter q) (h' : r.before q = false) :
    r.before p = false := by
  rw [← Bool.not_eq_true, before_iff] at h' ⊢
  rw [NotAfter] at h
  omega

end Position

namespace Selection

/-- The braces of a text balance, with `depth` blocks open in front of it: as many blocks are
closed as are open or opened, and nowhere more. -/
structure Balances (depth : Nat) (text : List CodePoint) : Prop where
  total : text.count (.char '\x7d') = depth + text.count (.char '\x7b')
  nowhere : ∀ front, front <+: text →
    front.count (.char '\x7d') ≤ depth + front.count (.char '\x7b')

namespace Balances

variable {depth : Nat} {text before after : List CodePoint}

theorem nil : Balances 0 [] where
  total := rfl
  nowhere front hfront := by
    rw [List.prefix_nil.mp hfront]
    exact Nat.le_refl 0

/-- One character in front of a text counts for the blocks that are open in front of the rest. -/
theorem cons {depth' : Nat} {c : CodePoint} (h : Balances depth' text)
    (hc : depth' + [c].count (.char '\x7d') = depth + [c].count (.char '\x7b')) :
    Balances depth (c :: text) where
  total := by
    have htotal := h.total
    rw [← List.singleton_append, List.count_append, List.count_append]
    omega
  nowhere front hfront := by
    rcases List.prefix_cons_iff.mp hfront with rfl | ⟨rest, rfl, hrest⟩
    · exact Nat.zero_le _
    · have hnowhere := h.nowhere rest hrest
      rw [← List.singleton_append, List.count_append, List.count_append]
      omega

theorem append (h : Balances 0 before) (h' : Balances 0 after) : Balances 0 (before ++ after) where
  total := by
    have hbefore := h.total
    have hafter := h'.total
    rw [List.count_append, List.count_append]
    omega
  nowhere := by
    rintro front ⟨rest, heq⟩
    rcases List.append_eq_append_iff.mp heq with ⟨more, rfl, -⟩ | ⟨more, rfl, htail⟩
    · exact h.nowhere front (List.prefix_append front more)
    · have hbefore := h.total
      have hmore := h'.nowhere more ⟨rest, htail.symm⟩
      rw [List.count_append, List.count_append]
      omega

/-- A balanced text in front changes nothing. -/
theorem append_left_iff (h : Balances 0 before) :
    Balances 0 (before ++ text) ↔ Balances 0 text := by
  refine ⟨fun hboth => ?_, h.append⟩
  have hbefore := h.total
  constructor
  · have hsum := hboth.total
    rw [List.count_append, List.count_append] at hsum
    omega
  · intro front hfront
    have hsum := hboth.nowhere (before ++ front) ((List.prefix_append_right_inj before).mpr hfront)
    rw [List.count_append, List.count_append] at hsum
    omega

/-- A balanced text behind changes nothing. -/
theorem append_right_iff (h : Balances 0 after) :
    Balances 0 (text ++ after) ↔ Balances 0 text := by
  refine ⟨fun hboth => ?_, fun htext => htext.append h⟩
  have hafter := h.total
  constructor
  · have hsum := hboth.total
    rw [List.count_append, List.count_append] at hsum
    omega
  · exact fun front hfront => hboth.nowhere front (hfront.trans (List.prefix_append text after))

end Balances

/-- The brace that stands for a brace where a text is read backwards. -/
def mirrorBrace (c : CodePoint) : CodePoint :=
  if c = '\x7b' then .char '\x7d' else if c = '\x7d' then .char '\x7b' else c

theorem mirrorBrace_involutive : Function.Involutive mirrorBrace := by
  intro c
  by_cases hopening : c = '\x7b'
  · subst hopening
    decide
  · by_cases hclosing : c = '\x7d'
    · subst hclosing
      decide
    · have hself : mirrorBrace c = c := by rw [mirrorBrace, if_neg hopening, if_neg hclosing]
      rw [hself, hself]

theorem count_mirrored (brace : CodePoint) (text : List CodePoint) :
    (text.map mirrorBrace).count (mirrorBrace brace) = text.count brace :=
  List.count_map_of_injective text mirrorBrace mirrorBrace_involutive.injective brace

theorem map_mirrorBrace_map_mirrorBrace (text : List CodePoint) :
    (text.map mirrorBrace).map mirrorBrace = text := by
  rw [List.map_map, mirrorBrace_involutive.comp_self, List.map_id]

/-- A balanced text is balanced in the mirror as well. -/
theorem Balances.reverse_mirrored {text : List CodePoint} (h : Balances 0 text) :
    Balances 0 (text.map mirrorBrace).reverse := by
  have hopening (part : List CodePoint) :
      (part.map mirrorBrace).count (.char '\x7b') = part.count (.char '\x7d') :=
    count_mirrored (.char '\x7d') part
  have hclosing (part : List CodePoint) :
      (part.map mirrorBrace).count (.char '\x7d') = part.count (.char '\x7b') :=
    count_mirrored (.char '\x7b') part
  have htotal := h.total
  constructor
  · rw [List.count_reverse, List.count_reverse, hopening, hclosing]
    omega
  · rintro front ⟨rest, heq⟩
    -- The text starts with what is, in the mirror, behind the front.
    have htext : text = (rest.map mirrorBrace).reverse ++ (front.map mirrorBrace).reverse := by
      rw [← List.reverse_append, ← List.map_append, heq, List.map_reverse, List.reverse_reverse,
        map_mirrorBrace_map_mirrorBrace]
    have hrest := h.nowhere _ ⟨_, htext.symm⟩
    rw [htext] at htotal
    simp only [List.count_append, List.count_reverse, hopening, hclosing] at htotal hrest
    omega

/-- In front of the closing brace that is found the braces are balanced. -/
theorem exists_of_closingBrace? {depth : Nat} {characters : List (Position × CodePoint)}
    {place : Position} (h : closingBrace? depth characters = some place) :
    ∃ passed rest, characters = passed ++ (place, .char '\x7d') :: rest ∧
      Balances depth (passed.map Prod.snd) := by
  induction characters generalizing depth with
  | nil => cases h
  | cons entry rest ih =>
      obtain ⟨first, c⟩ := entry
      have hlater {depth' : Nat} (hrest : closingBrace? depth' rest = some place)
          (hc : depth' + [c].count (.char '\x7d') = depth + [c].count (.char '\x7b')) :
          ∃ passed rest', (first, c) :: rest = passed ++ (place, .char '\x7d') :: rest' ∧
            Balances depth (passed.map Prod.snd) := by
        obtain ⟨passed, rest', rfl, hpassed⟩ := ih hrest
        exact ⟨(first, c) :: passed, rest', rfl, hpassed.cons hc⟩
      rw [closingBrace?_cons] at h
      split at h
      · next hopening => exact hlater h (by subst hopening; rfl)
      · next hopening =>
          split at h
          · next hclosing =>
              subst hclosing
              cases depth with
              | zero =>
                  cases h
                  exact ⟨[], rest, rfl, .nil⟩
              | succ depth => exact hlater h rfl
          · next hclosing =>
              have hnone : [c].count (.char '\x7d') = [c].count (.char '\x7b') := by
                simp [hopening, hclosing]
              exact hlater h (by rw [hnone])

theorem map_snd_mirrored (characters : List (Position × CodePoint)) :
    (characters.map mirrored).map Prod.snd = (characters.map Prod.snd).map mirrorBrace := by
  rw [List.map_map, List.map_map]
  exact List.map_congr_left fun entry _ => rfl

/-- Behind the opening brace that is found the braces are balanced. -/
theorem exists_of_openingBrace? {characters : List (Position × CodePoint)} {place : Position}
    (h : openingBrace? 0 characters.reverse = some place) :
    ∃ rest passed, characters = rest ++ (place, .char '\x7b') :: passed ∧
      Balances 0 (passed.map Prod.snd) := by
  have hmirrored (part : List (Position × CodePoint)) :
      (part.map mirrored).map mirrored = part := by
    rw [List.map_map]
    refine (List.map_congr_left fun entry _ => ?_).trans (List.map_id _)
    exact Prod.ext rfl (mirrorBrace_involutive entry.2)
  rw [openingBrace?_eq_mirrored] at h
  obtain ⟨passed, rest, hsplit, hpassed⟩ := exists_of_closingBrace? h
  refine ⟨(rest.map mirrored).reverse, (passed.map mirrored).reverse, ?_, ?_⟩
  · calc
      characters = ((characters.reverse.map mirrored).map mirrored).reverse := by
        rw [hmirrored, List.reverse_reverse]
      _ = _ := by
        rw [hsplit, List.map_append, List.map_cons, List.reverse_append, List.reverse_cons,
          List.append_assoc]
        rfl
  · rw [List.map_reverse, map_snd_mirrored]
    exact hpassed.reverse_mirrored

/-- The characters of a document are in order. -/
theorem pairwise_before_placed (lines : List Line) :
    (placed lines).Pairwise fun a b => a.1.before b.1 = true := by
  rw [placed, List.pairwise_flatMap]
  constructor
  · rintro ⟨line, number⟩ -
    rw [List.pairwise_map]
    refine (pairwise_zipIdx line).imp fun hlt => ?_
    exact Position.before_iff.mpr (Or.inr ⟨rfl, hlt⟩)
  · refine (pairwise_zipIdx lines).imp fun hlt a ha b hb => ?_
    obtain ⟨-, -, rfl⟩ := List.mem_map.mp ha
    obtain ⟨-, -, rfl⟩ := List.mem_map.mp hb
    exact Position.before_iff.mpr (Or.inl hlt)

/-- The characters of a document in a range, up to its stop. -/
def textIn (lines : List Line) (range : Range) : List CodePoint :=
  ((placed lines).filter fun entry =>
    !entry.1.before range.start && entry.1.before range.stop).map Prod.snd

/-- In a list where the items with a property come first, they are split off. -/
theorem filter_append_filter_not {α : Type} {p : α → Bool} {items : List α}
    (h : items.Pairwise fun a b => p b = true → p a = true) :
    items.filter p ++ items.filter (fun a => !p a) = items := by
  induction items with
  | nil => rfl
  | cons first rest ih =>
      obtain ⟨hfirst, hrest⟩ := List.pairwise_cons.mp h
      cases hp : p first with
      | true =>
          rw [List.filter_cons_of_pos hp, List.filter_cons_of_neg (by simp [hp]),
            List.cons_append, ih hrest]
      | false =>
          have hlater : ∀ a ∈ rest, ¬p a = true := fun a ha hpa => by
            rw [hfirst a ha hpa] at hp
            cases hp
          rw [List.filter_cons_of_neg (by simp [hp]), List.filter_cons_of_pos (by simp [hp]),
            List.filter_eq_nil_iff.mpr hlater, List.nil_append]
          exact congrArg (first :: ·) (List.filter_eq_self.mpr fun a ha => by simp [hlater a ha])

/-- A document is what stands before a place, between it and a later one, and behind that. -/
theorem placed_eq_parts (lines : List Line) {p q : Position} (h : p.NotAfter q) :
    placed lines =
      (placed lines).filter (fun entry => entry.1.before p) ++
        ((placed lines).filter (fun entry => !entry.1.before p && entry.1.before q) ++
          (placed lines).filter fun entry => !entry.1.before q) := by
  have hsplit (r : Position) : (placed lines).Pairwise fun a b =>
      b.1.before r = true → a.1.before r = true :=
    (pairwise_before_placed lines).imp fun hab hb => Position.before_trans hab hb
  have hbehind : ((placed lines).filter fun entry => !entry.1.before p).filter
      (fun entry => !entry.1.before q) =
        (placed lines).filter fun entry => !entry.1.before q := by
    rw [List.filter_filter]
    refine List.filter_congr fun entry _ => ?_
    cases hq : entry.1.before q with
    | true => rfl
    | false => rw [Position.not_before_of_notAfter h hq, Bool.and_self]
  have hbetween : ((placed lines).filter fun entry => !entry.1.before p).filter
      (fun entry => entry.1.before q) =
        (placed lines).filter fun entry => !entry.1.before p && entry.1.before q := by
    rw [List.filter_filter]
    exact List.filter_congr fun _ _ => Bool.and_comm ..
  have hrest := filter_append_filter_not
    ((hsplit q).sublist (List.filter_sublist (p := fun entry => !entry.1.before p)))
  rw [hbehind, hbetween] at hrest
  rw [hrest]
  exact (filter_append_filter_not (hsplit p)).symm

/-- The text from one character of a document through another one. -/
theorem textIn_of_placed_eq {lines : List Line} {before inner after : List (Position × CodePoint)}
    {opening closing : Position} {c d : CodePoint}
    (h : placed lines = before ++ ((opening, c) :: inner ++ (closing, d) :: after)) :
    textIn lines ⟨opening, ⟨closing.line, closing.character + 1⟩⟩ =
      c :: inner.map Prod.snd ++ [d] := by
  have hordered := pairwise_before_placed lines
  rw [textIn, h]
  rw [h] at hordered
  obtain ⟨-, hrest, hbefore⟩ := List.pairwise_append.mp hordered
  obtain ⟨hinner, hafter, hacross⟩ := List.pairwise_append.mp hrest
  have hthrough : ∀ entry ∈ (opening, c) :: inner ++ [(closing, d)],
      (!entry.1.before opening &&
        entry.1.before ⟨closing.line, closing.character + 1⟩) = true := by
    intro entry hentry
    refine Position.from_through_iff.mpr ⟨?_, ?_⟩
    · rcases List.mem_cons.mp hentry with rfl | hlater
      · exact Or.inr ⟨rfl, Nat.le_refl _⟩
      · refine Position.notAfter_of_before ((List.pairwise_cons.mp hrest).1 entry ?_)
        rcases List.mem_append.mp hlater with hmem | hmem
        · exact List.mem_append_left _ hmem
        · exact List.mem_append_right _ (List.mem_singleton.mp hmem ▸ List.mem_cons_self)
    · rcases List.mem_append.mp hentry with hfirst | hlast
      · exact Position.notAfter_of_before (hacross entry hfirst (closing, d) List.mem_cons_self)
      · rw [List.mem_singleton.mp hlast]
        exact Or.inr ⟨rfl, Nat.le_refl _⟩
  have hfront : before.filter (fun entry => !entry.1.before opening &&
      entry.1.before ⟨closing.line, closing.character + 1⟩) = [] := by
    refine List.filter_eq_nil_iff.mpr fun entry hentry hin => ?_
    have hlt := hbefore entry hentry (opening, c) List.mem_cons_self
    exact Position.not_notAfter_of_before hlt (Position.from_through_iff.mp hin).1
  have hback : after.filter (fun entry => !entry.1.before opening &&
      entry.1.before ⟨closing.line, closing.character + 1⟩) = [] := by
    refine List.filter_eq_nil_iff.mpr fun entry hentry hin => ?_
    have hlt := (List.pairwise_cons.mp hafter).1 entry hentry
    exact Position.not_notAfter_of_before hlt (Position.from_through_iff.mp hin).2
  rw [List.append_cons _ _ after, List.filter_append, List.filter_append, hfront, hback,
    List.filter_eq_self.mpr hthrough, List.nil_append, List.append_nil, List.map_append]
  rfl

/-- What stands between the braces of a block and around a statement is balanced, so the braces
between those of the block are balanced where those of the statement are. -/
theorem exists_textIn_of_block? {lines : List Line} {number start stop : Nat} {block : Range}
    (hordered : start ≤ stop) (h : block? (placed lines) number start stop = some block) :
    ∃ between, textIn lines block = .char '\x7b' :: between ++ [.char '\x7d'] ∧
      (Balances 0 between ↔ Balances 0 (textIn lines (.onLine number start stop))) := by
  have hparts := placed_eq_parts lines
    (p := ⟨number, start⟩) (q := ⟨number, stop⟩) (Or.inr ⟨rfl, hordered⟩)
  simp only [block?] at h
  split at h
  · next opening closing hopening hclosing =>
      cases h
      obtain ⟨above, before, hfront, hbefore⟩ := exists_of_openingBrace? hopening
      obtain ⟨after, below, hback, hafter⟩ := exists_of_closingBrace? hclosing
      rw [hfront, hback] at hparts
      set statement := (placed lines).filter fun entry =>
        !entry.1.before ⟨number, start⟩ && entry.1.before ⟨number, stop⟩
      have hplaced : placed lines =
          above ++ ((opening, .char '\x7b') :: (before ++ statement ++ after) ++
            (closing, .char '\x7d') :: below) := by
        rw [hparts]
        simp only [List.append_assoc, List.cons_append]
      refine ⟨(before ++ statement ++ after).map Prod.snd, textIn_of_placed_eq hplaced, ?_⟩
      rw [List.map_append, List.map_append, List.append_assoc, hbefore.append_left_iff,
        hafter.append_right_iff]
      rfl
  · cases h

/-- The block around the statement at a place is the outermost of its selections. It goes from
an opening brace through a closing one, and the braces between these two are balanced exactly
where the braces of the statement are. -/
theorem block_matches_exactly {text : Text} {position : Json} {place : Position} {line : Line}
    {block : Range} (hposition : Cursor.ofJson? position = some place.toCursor)
    (hline : (lines text)[place.line]? = some line) (hcharacter : place.character ≤ line.length)
    (hblock : blockAround? (placed (lines text)) place.line line place.character = some block) :
    (∃ inner, ofText text [position] = [inner ++ [block]]) ∧
      ∃ between, textIn (lines text) block = .char '\x7b' :: between ++ [.char '\x7d'] ∧
        (Balances 0 between ↔
          Balances 0 (textIn (lines text)
            (statementAround place.line line place.character))) := by
  have hlocate : locate? (lines text) place.toCursor = some (line, place.character) :=
    locate?_eq_some_iff.mpr ⟨place.line, rfl, hline, hcharacter⟩
  constructor
  · refine ⟨properWord place.line line place.character ++
      [statementAround place.line line place.character], ?_⟩
    have hchain : chainAt? (lines text) (placed (lines text)) place.toCursor =
        some (chain (placed (lines text)) place.line line place.character) := by
      rw [chainAt?, hlocate]
      rfl
    simp only [ofText, List.filterMap_cons, hposition, Option.bind_some, hchain, chain_eq, hblock,
      List.filterMap_nil, Option.toList_some, List.append_assoc, List.singleton_append]
  · exact exists_textIn_of_block?
      (Nat.le_trans (statementStart_le ..)
        (Nat.le_trans (runStart_le ..) (Nat.le_trans (le_runStop ..) (le_statementStop ..)))) hblock

/-- A statement that begins in front of a function and ends inside it. -/
theorem block_ends_too_early :
    let text : Text := "mod \x7b\nfn f() \x7b x; \x7d\n\x7d"
    let line := Text.toList "fn f() \x7b x; \x7d"
    let statement := Range.onLine 1 0 11
    let block : Range := ⟨⟨0, 4⟩, ⟨1, 13⟩⟩
    (lines text)[1]? = some line ∧ statementAround 1 line 9 = statement ∧
      ofText text [Position.toJson ⟨1, 9⟩] = [[.onLine 1 9 10, statement, block]] ∧
      ∃ between, textIn (lines text) block = .char '\x7b' :: between ++ [.char '\x7d'] ∧
        ¬Balances 0 between := by
  intro text line statement block
  have hline : (lines text)[1]? = some line := by decide
  have hblock : blockAround? (placed (lines text)) 1 line 9 = some block := by decide +kernel
  have hstatement : statementAround 1 line 9 = statement := by decide +kernel
  have hposition : Cursor.ofJson? (Position.toJson ⟨1, 9⟩) = some (Position.toCursor ⟨1, 9⟩) := by
    decide
  obtain ⟨-, between, hbetween, hbalances⟩ :=
    block_matches_exactly hposition hline (by decide) hblock
  refine ⟨hline, hstatement, by decide +kernel, between, hbetween, fun hbalanced => ?_⟩
  have hopen : ¬Balances 0 (textIn (lines text) (statementAround 1 line 9)) := by
    intro hstatement
    exact absurd hstatement.total (by decide +kernel)
  exact hopen (hbalances.mp hbalanced)

end Selection

end LanguageServer
