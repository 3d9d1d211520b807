/-
# Linked occurrences

The ranges that are edited together are the words of the document that read like the
one at the cursor. The search goes over the columns where the identifier stands and keeps
those with no word character at either end, and these are the runs of word characters that
read like it, so the answer is the same wherever in one of them the cursor is
(`LinkedRanges.ranges_are_the_words`).
-/

import LanguageServer.Feature.LinkedEditing
import LanguageServer.Proofs.WordRun

namespace LanguageServer

open Text

namespace LinkedRanges

variable {word line : Line} {lines : List Line} {range : Range} {number start : Nat}

theorem mem_wordStarts_startsWith_iff (hword : word ≠ [])
    (hclass : ∀ c ∈ word, isWordChar c = true) :
    start ∈ wordStarts (startsWith word) none 0 line ↔
      IsRun isWordChar line start (start + word.length) ∧
        slice line start (start + word.length) = word := by
  rw [isRun_word_iff hword hclass, mem_wordStarts_iff, startsWith, List.drop_drop,
    List.head?_drop, Bool.and_eq_true, Bool.not_eq_true', List.isPrefixOf_iff_prefix]
  constructor
  · rintro ⟨-, hbefore, hprefix, hafter⟩
    exact ⟨rfl, hprefix, hbefore, hafter⟩
  · rintro ⟨-, hprefix, hbefore, hafter⟩
    exact ⟨lt_of_prefix_drop hword hprefix, hbefore, hprefix, hafter⟩

/-- The occurrences of a word on a line are the runs of word characters that read like it. -/
theorem mem_onLine_iff (hword : word ≠ []) (hclass : ∀ c ∈ word, isWordChar c = true) :
    range ∈ onLine word line number ↔
      ∃ start stop, (IsRun isWordChar line start stop ∧ slice line start stop = word) ∧
        range = .onLine number start stop := by
  simp only [onLine, List.mem_map, mem_wordStarts_startsWith_iff hword hclass]
  constructor
  · rintro ⟨start, hrun, rfl⟩
    exact ⟨start, start + word.length, hrun, rfl⟩
  · rintro ⟨start, stop, hrun, rfl⟩
    obtain ⟨rfl, -⟩ := (isRun_word_iff hword hclass).mp hrun
    exact ⟨start, hrun, rfl⟩

theorem pairwise_before_onLine (word line : Line) (number : Nat) :
    (onLine word line number).Pairwise fun a b => a.start.before b.start = true := by
  rw [onLine, List.pairwise_map]
  refine (pairwise_wordStarts (startsWith word) line).imp fun hlt => ?_
  exact Position.before_iff.mpr (Or.inr ⟨rfl, hlt⟩)

/-- The whole-word occurrences of a word in some lines. -/
def inLines (word : Line) (lines : List Line) : List Range :=
  lines.zipIdx.flatMap fun (line, number) => onLine word line number

theorem mem_inLines_iff (hword : word ≠ []) (hclass : ∀ c ∈ word, isWordChar c = true) :
    range ∈ inLines word lines ↔ range.IsWord lines word := by
  rw [Range.isWord_iff]
  refine (mem_zipIdx_flatMap_iff (f := fun line number => onLine word line number)).trans ?_
  simp only [mem_onLine_iff hword hclass, exists_and_left]

theorem line_of_mem_onLine (h : range ∈ onLine word line number) : range.start.line = number := by
  obtain ⟨start, -, rfl⟩ := List.mem_map.mp h
  rfl

/-- The occurrences in a document are in order. -/
theorem pairwise_before_inLines (word : Line) (lines : List Line) :
    (inLines word lines).Pairwise fun a b => a.start.before b.start = true := by
  rw [inLines, List.pairwise_flatMap]
  refine ⟨fun entry _ => pairwise_before_onLine .., ?_⟩
  refine (pairwise_zipIdx lines).imp fun hlt a ha b hb => ?_
  rw [Position.before_iff, line_of_mem_onLine ha, line_of_mem_onLine hb]
  exact Or.inl hlt

theorem at?_eq_some_iff {text : Text} {position : Json} {linked : LinkedRanges} :
    at? text position = some linked ↔ ∃ cursor word, Cursor.ofJson? position = some cursor ∧
      identifierAt? (Text.lines text) cursor = some word ∧
        linked = ⟨inLines word (Text.lines text), Text.ofList word⟩ := by
  rw [at?]
  constructor
  · intro h
    split at h
    · cases h
    · next cursor hcursor =>
        obtain ⟨word, hword, rfl⟩ := Option.map_eq_some_iff.mp h
        exact ⟨cursor, word, hcursor, hword, rfl⟩
  · rintro ⟨cursor, word, hcursor, hword, rfl⟩
    rw [hcursor]
    exact Option.map_eq_some_iff.mpr ⟨word, hword, rfl⟩

/-- There is an answer exactly for a cursor that is held by a word which starts like an
identifier. -/
theorem isSome_at?_iff {text : Text} {position : Json} :
    (at? text position).isSome = true ↔ ∃ cursor, Cursor.ofJson? position = some cursor ∧
      ∃ (range : Range) (word : Line), range.IsWord (Text.lines text) word ∧
        range.Holds cursor ∧ word.head?.any isIdentifierStart = true := by
  rw [Option.isSome_iff_exists]
  constructor
  · rintro ⟨linked, h⟩
    obtain ⟨cursor, word, hcursor, hidentifier, -⟩ := at?_eq_some_iff.mp h
    obtain ⟨hhead, range, hword, hholds⟩ := identifierAt?_eq_some_iff.mp hidentifier
    exact ⟨cursor, hcursor, range, word, hword, hholds, hhead⟩
  · rintro ⟨cursor, hcursor, range, word, hword, hholds, hhead⟩
    have hidentifier := identifierAt?_eq_some_iff.mpr ⟨hhead, range, hword, hholds⟩
    exact ⟨_, at?_eq_some_iff.mpr ⟨cursor, word, hcursor, hidentifier, rfl⟩⟩

/-- The ranges that are edited together are, in the order of the document, the words of the
document that read like the identifier. One of them holds the cursor, and the answer is the
same exactly from the places that one of them holds. -/
theorem ranges_are_the_words {text : Text} {position : Json} {linked : LinkedRanges}
    (h : at? text position = some linked) :
    (linked.ranges.Pairwise fun a b => a.start.before b.start = true) ∧
      (∀ range, range ∈ linked.ranges ↔
        range.IsWord (Text.lines text) linked.word.toList) ∧
      (∃ cursor, Cursor.ofJson? position = some cursor ∧
        ∃ range ∈ linked.ranges, range.Holds cursor) ∧
      ∀ (position' : Json) (cursor' : Cursor), Cursor.ofJson? position' = some cursor' →
        (at? text position' = some linked ↔ ∃ range ∈ linked.ranges, range.Holds cursor') := by
  obtain ⟨cursor, word, hcursor, hidentifier, rfl⟩ := at?_eq_some_iff.mp h
  obtain ⟨hhead, here, hhere, hholds⟩ := identifierAt?_eq_some_iff.mp hidentifier
  have hmem (range : Range) :
      range ∈ inLines word (Text.lines text) ↔ range.IsWord (Text.lines text) word :=
    mem_inLines_iff hhere.ne_nil hhere.isWordChar_of_mem
  refine ⟨pairwise_before_inLines .., ?_, ⟨cursor, hcursor, here, (hmem here).mpr hhere, hholds⟩,
    fun position' cursor' hcursor' => ⟨fun h' => ?_, ?_⟩⟩
  · exact hmem
  · obtain ⟨_, word', hcursor'', hidentifier', hlinked⟩ := at?_eq_some_iff.mp h'
    rw [hcursor'] at hcursor''
    cases hcursor''
    cases Text.ofList.inj (congrArg LinkedRanges.word hlinked)
    obtain ⟨-, range, hrange, hholds'⟩ := identifierAt?_eq_some_iff.mp hidentifier'
    exact ⟨range, (hmem range).mpr hrange, hholds'⟩
  · rintro ⟨range, hrange, hholds'⟩
    have hidentifier' : identifierAt? (Text.lines text) cursor' = some word :=
      identifierAt?_eq_some_iff.mpr ⟨hhead, range, (hmem range).mp hrange, hholds'⟩
    exact at?_eq_some_iff.mpr ⟨cursor', word, hcursor', hidentifier', rfl⟩

/-- An identifier that a longer word begins and ends with. -/
theorem ranges_of_overlapping_word :
    let text := "aa aaa aa\nb aa"
    let linked : LinkedRanges := ⟨[.onLine 0 0 2, .onLine 0 7 9, .onLine 1 2 4], "aa"⟩
    at? text (Position.toJson ⟨0, 1⟩) = some linked ∧
      (∀ range, range ∈ linked.ranges ↔ range.IsWord (Text.lines text) linked.word.toList) ∧
        at? text (Position.toJson ⟨1, 2⟩) = some linked := by
  intro text linked
  have hanswer : at? text (Position.toJson ⟨0, 1⟩) = some linked := by decide +kernel
  obtain ⟨-, hwords, -, hsame⟩ := ranges_are_the_words hanswer
  have hholds : (Range.onLine 1 2 4).Holds ⟨1, 2⟩ := ⟨by decide, by decide, by decide⟩
  refine ⟨hanswer, hwords, (hsame _ ⟨1, 2⟩ (by decide +kernel)).mpr ?_⟩
  exact ⟨.onLine 1 2 4, by decide, hholds⟩

end LinkedRanges

end LanguageServer
