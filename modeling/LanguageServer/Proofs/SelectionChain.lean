/-
# Selections grow around a cursor

The selections for a cursor are the word that it touches, the statement around the word and
the block around the statement, where a word that is all of its statement is left out
(`Selection.chain_eq`). A word lies in its statement, and the braces of a block stand
outside of the statement, so each selection has the one before in it and goes further
(`Selection.chains_grow_around_cursors`).
-/

import LanguageServer.Proofs.PlacesInside

namespace LanguageServer

open Text

/-- A place as a client names it. -/
def Position.toCursor (p : Position) : Cursor :=
  ⟨p.line, p.character⟩

/-- A cursor lies in lines: it names a place that does. -/
def Cursor.Inside (cursor : Cursor) (lines : List Line) : Prop :=
  ∃ place : Position, cursor = place.toCursor ∧ place.Inside lines

/-- A range holds a place, at one of its ends or between them. -/
structure Range.Contains (r : Range) (place : Position) : Prop where
  start : r.start.NotAfter place
  stop : place.NotAfter r.stop

section Locate

variable {lines : List Line} {cursor : Cursor}

/-- The cursors inside are those that are located. -/
theorem Cursor.inside_iff : cursor.Inside lines ↔ (locate? lines cursor).isSome = true := by
  rw [Option.isSome_iff_exists]
  constructor
  · rintro ⟨⟨number, column⟩, rfl, line, hline, hcolumn⟩
    exact ⟨(line, column), locate?_eq_some_iff.mpr ⟨number, rfl, hline, hcolumn⟩⟩
  · rintro ⟨⟨line, column⟩, hlocate⟩
    obtain ⟨number, rfl, hline, hcolumn⟩ := locate?_eq_some_iff.mp hlocate
    exact ⟨⟨number, column⟩, rfl, line, hline, hcolumn⟩

instance : Decidable (cursor.Inside lines) :=
  decidable_of_iff _ Cursor.inside_iff.symm

end Locate

namespace Selection

section Parts

variable {characters : List (Position × CodePoint)} {number column : Nat} {line : Line}

/-- The word around a column, which is empty where no character of a name is next to it. -/
def wordAround (number : Nat) (line : Line) (column : Nat) : Range :=
  .onLine number (runStart isNameChar line column) (runStop isNameChar line column)

/-- The statement around the word around a column. -/
def statementAround (number : Nat) (line : Line) (column : Nat) : Range :=
  .onLine number (statementStart line (runStart isNameChar line column))
    (statementStop line (runStop isNameChar line column))

/-- The block around the statement around a column, if there is one. -/
def blockAround? (characters : List (Position × CodePoint)) (number : Nat) (line : Line)
    (column : Nat) : Option Range :=
  let statement := statementAround number line column
  block? characters number statement.start.character statement.stop.character

/-- The word, where it is not empty and is not all of its statement. -/
def properWord (number : Nat) (line : Line) (column : Nat) : List Range :=
  let word := wordAround number line column
  if word.start.character < word.stop.character ∧ word ≠ statementAround number line column then
    [word]
  else []

theorem wordAround_within_statementAround (number : Nat) (line : Line) (column : Nat) :
    (wordAround number line column).Within (statementAround number line column) :=
  ⟨Or.inr ⟨rfl, statementStart_le ..⟩, Or.inr ⟨rfl, le_statementStop ..⟩⟩

theorem contains_wordAround (number : Nat) (line : Line) (column : Nat) :
    (wordAround number line column).Contains ⟨number, column⟩ :=
  ⟨Or.inr ⟨rfl, runStart_le ..⟩, Or.inr ⟨rfl, le_runStop ..⟩⟩

theorem contains_statementAround (number : Nat) (line : Line) (column : Nat) :
    (statementAround number line column).Contains ⟨number, column⟩ :=
  ⟨Or.inr ⟨rfl, Nat.le_trans (statementStart_le ..) (runStart_le ..)⟩,
    Or.inr ⟨rfl, Nat.le_trans (le_runStop ..) (le_statementStop ..)⟩⟩

/-- The braces of a block stand outside of its statement. -/
theorem statementAround_within_block {block : Range}
    (h : blockAround? characters number line column = some block) :
    (statementAround number line column).Within block ∧
      statementAround number line column ≠ block := by
  obtain ⟨opening, closing, rfl, -, hbefore, -, hbehind⟩ := exists_braces_of_block? h
  have hstart : opening.NotAfter (statementAround number line column).start :=
    Position.notAfter_of_before hbefore
  have hstop : (statementAround number line column).stop.NotAfter closing :=
    Position.notAfter_of_not_before hbehind
  refine ⟨⟨hstart, ?_⟩, fun heq => ?_⟩
  · simp only [Position.NotAfter] at hstop ⊢
    omega
  · -- The closing brace would stand before the end of the statement.
    rw [heq] at hstop
    simp only [Position.NotAfter] at hstop
    omega

/-- A chain is made up of the word, the statement and the block. -/
theorem chain_eq (characters : List (Position × CodePoint)) (number : Nat) (line : Line)
    (column : Nat) :
    chain characters number line column =
      properWord number line column ++ statementAround number line column ::
        (blockAround? characters number line column).toList := by
  have hblock : ∀ block ∈ (blockAround? characters number line column).toList,
      statementAround number line column ≠ block := fun block hmem =>
    (statementAround_within_block (Option.mem_toList.mp hmem)).2
  rw [properWord]
  change List.foldr _ []
    ((if (wordAround number line column).start.character <
        (wordAround number line column).stop.character then
      [wordAround number line column] else []) ++ statementAround number line column ::
        (blockAround? characters number line column).toList) = _
  generalize wordAround number line column = word,
    statementAround number line column = statement,
    blockAround? characters number line column = block at hblock ⊢
  have houter : (statement :: block.toList).foldr
      (fun part outer => if outer.head? = some part then outer else part :: outer) [] =
        statement :: block.toList := by
    cases block with
    | none => rfl
    | some block => simp [(hblock block List.mem_cons_self).symm]
  rw [List.foldr_append, houter]
  by_cases hword : word.start.character < word.stop.character
  · by_cases heq : word = statement
    · subst heq
      simp [hword]
    · simp [hword, heq, Ne.symm heq]
  · simp [hword]

end Parts

/-- A chain grows around a cursor: its innermost part holds the place of the cursor, and each
next part contains the one before and is another one. -/
structure GrowsAround (cursor : Cursor) (chain : List Range) : Prop where
  innermost : ∃ (place : Position) (inner : Range),
    cursor = place.toCursor ∧ chain.head? = some inner ∧ inner.Contains place
  growing : chain.IsChain fun inner outer => inner.Within outer ∧ inner ≠ outer

theorem growsAround_chain (characters : List (Position × CodePoint)) (number : Nat) (line : Line)
    (column : Nat) :
    GrowsAround (Position.toCursor ⟨number, column⟩) (chain characters number line column) := by
  have houter : (statementAround number line column ::
      (blockAround? characters number line column).toList).IsChain
        fun inner outer => inner.Within outer ∧ inner ≠ outer := by
    cases hblock : blockAround? characters number line column with
    | none => exact List.isChain_singleton _
    | some block => exact List.isChain_pair.mpr (statementAround_within_block hblock)
  rw [chain_eq, properWord]
  split
  · next hword =>
      exact ⟨⟨⟨number, column⟩, _, rfl, rfl, contains_wordAround ..⟩,
        List.isChain_cons_cons.mpr
          ⟨⟨wordAround_within_statementAround .., hword.2⟩, houter⟩⟩
  · exact ⟨⟨⟨number, column⟩, _, rfl, rfl, contains_statementAround ..⟩, houter⟩

/-- A cursor has a chain where it is inside. -/
theorem isSome_chainAt?_iff {lines : List Line} {characters : List (Position × CodePoint)}
    {cursor : Cursor} :
    (chainAt? lines characters cursor).isSome = true ↔ cursor.Inside lines := by
  rw [chainAt?, Option.isSome_map, Cursor.inside_iff]

theorem growsAround_of_chainAt? {lines : List Line} {characters : List (Position × CodePoint)}
    {cursor : Cursor} {parts : List Range} (h : chainAt? lines characters cursor = some parts) :
    GrowsAround cursor parts := by
  obtain ⟨⟨line, column⟩, hlocate, rfl⟩ := Option.map_eq_some_iff.mp h
  obtain ⟨number, rfl, -, -⟩ := locate?_eq_some_iff.mp hlocate
  exact growsAround_chain characters number line column

/-- Each cursor inside a document gets one chain, in the order of the cursors, and the chain
grows around it. Values that name no place, or one outside, get none. -/
theorem chains_grow_around_cursors (text : Text) (positions : List Json) :
    List.Forall₂ GrowsAround
      ((positions.filterMap Cursor.ofJson?).filter fun cursor => cursor.Inside (lines text))
      (ofText text positions) := by
  rw [ofText, ← List.filterMap_filterMap]
  induction positions.filterMap Cursor.ofJson? with
  | nil => exact .nil
  | cons cursor rest ih =>
      rw [List.filterMap_cons, List.filter_cons]
      by_cases hinside : cursor.Inside (lines text)
      · obtain ⟨parts, hparts⟩ := Option.isSome_iff_exists.mp (isSome_chainAt?_iff.mpr hinside)
        rw [hparts, if_pos (decide_eq_true hinside)]
        exact .cons (growsAround_of_chainAt? hparts) ih
      · have hnone : chainAt? (lines text) (placed (lines text)) cursor = none :=
          Option.not_isSome_iff_eq_none.mp fun hsome => hinside (isSome_chainAt?_iff.mp hsome)
        rw [hnone, if_neg (by rwa [decide_eq_true_eq])]
        exact ih

end Selection

end LanguageServer
