/-
# The last length counts

Of a block of header lines the reader keeps one thing, what the last line about the length says
(`Frame.lastLength?`). A line is about the length if it is named so, whatever its value is: an
invalid value makes the length of an earlier line invalid, and a later line makes it valid again.
All other lines can be added, taken out or moved around without a trace.

The one exception is a numeral with too many digits. It breaks the reading off where it stands,
so no such numeral may be announced, not even by a line before the last one (`HeaderLine.Fits`).
-/

import LanguageServer.Proofs.Framing

namespace LanguageServer.Frame

namespace HeaderLine

/-- A line is about the length if it is named so. -/
def isLength (line : HeaderLine) : Bool :=
  headerName line.text = "content-length".toList

/-- A line that announces no numeral with too many digits. -/
def Fits (line : HeaderLine) : Prop :=
  ∀ numeral, line.Announces numeral → numeral.length ≤ Decimal.digitLimit

variable {line : HeaderLine}

instance : Decidable line.Fits :=
  decidable_of_iff
    (line.isLength = true →
      ∀ numeral ∈ numeral? (headerValue line.text), numeral.length ≤ Decimal.digitLimit)
    ⟨fun h numeral hannounces => h (decide_eq_true hannounces.1) numeral hannounces.2,
      fun h hlength numeral hnumeral => h numeral ⟨of_decide_eq_true hlength, hnumeral⟩⟩

/-- What was known before a line about the length does not matter. -/
theorem after_of_isLength (h : line.isLength = true) (known : Announced) :
    known.after line.text =
      match numeral? (headerValue line.text) with
      | some numeral => (Decimal.read numeral).map .length
      | none => .ok .invalid := by
  rw [Announced.after]
  exact if_pos (of_decide_eq_true h)

/-- What is known after any other line is what was known before. -/
theorem after_of_not_isLength (h : line.isLength = false) (known : Announced) :
    known.after line.text = .ok known := by
  rw [Announced.after, if_neg (of_decide_eq_false h)]

theorem fits_of_not_isLength (h : line.isLength = false) : line.Fits := fun _ hannounces =>
  absurd hannounces.1 (of_decide_eq_false h)

theorem Fits.exists_after (h : line.Fits) (known : Announced) :
    ∃ announced, known.after line.text = .ok announced := by
  cases hafter : known.after line.text with
  | ok announced => exact ⟨announced, rfl⟩
  | error fault =>
      obtain ⟨numeral, hannounces, hlong, -⟩ := after_eq_error_iff.mp hafter
      exact absurd (h numeral hannounces) (Nat.not_le.mpr hlong)

end HeaderLine

/-- The last line about the length. -/
def lastLength? (lines : List HeaderLine) : Option HeaderLine :=
  (lines.filter HeaderLine.isLength).getLast?

theorem lastLength?_concat (lines : List HeaderLine) (line : HeaderLine) :
    lastLength? (lines ++ [line]) = if line.isLength then some line else lastLength? lines := by
  rw [lastLength?, List.filter_append]
  cases hlength : line.isLength with
  | true => simp [hlength]
  | false => simp [hlength, lastLength?]

theorem isLength_of_lastLength? {lines : List HeaderLine} {line : HeaderLine}
    (h : lastLength? lines = some line) : line ∈ lines ∧ line.isLength = true :=
  List.mem_filter.mp (List.mem_of_getLast? h)

theorem announcedAfter_concat {known announced : Announced} {lines : List HeaderLine}
    (h : announcedAfter known lines = .ok announced) (line : HeaderLine) :
    announcedAfter known (lines ++ [line]) = announced.after line.text := by
  rw [announcedAfter] at h ⊢
  rw [List.foldlM_append, h]
  exact bind_pure (announced.after line.text)

variable {lines : List HeaderLine}

theorem exists_announcedAfter (h : ∀ line ∈ lines, line.Fits) (known : Announced) :
    ∃ announced, announcedAfter known lines = .ok announced := by
  induction lines generalizing known with
  | nil => exact ⟨known, rfl⟩
  | cons line lines ih =>
      obtain ⟨next, hnext⟩ := (h line List.mem_cons_self).exists_after known
      rw [announcedAfter_cons hnext]
      exact ih (fun later hlater => h later (List.mem_cons_of_mem _ hlater)) next

/-- A block announces what its last line about the length does alone. -/
theorem announcedAfter_eq_lastLength? (h : ∀ line ∈ lines, line.Fits) (known : Announced) :
    announcedAfter known lines = announcedAfter known (lastLength? lines).toList := by
  induction lines using List.reverseRecOn with
  | nil => rfl
  | append_singleton lines line ih =>
      have hbefore : ∀ earlier ∈ lines, earlier.Fits := fun earlier hearlier =>
        h earlier (List.mem_append_left _ hearlier)
      obtain ⟨announced, hannounced⟩ := exists_announcedAfter hbefore known
      rw [announcedAfter_concat hannounced, lastLength?_concat]
      cases hlength : line.isLength with
      | true =>
          rw [HeaderLine.after_of_isLength hlength, if_pos rfl, Option.toList_some,
            ← List.nil_append [line], announcedAfter_concat rfl,
            HeaderLine.after_of_isLength hlength]
      | false =>
          rw [HeaderLine.after_of_not_isLength hlength, if_neg Bool.false_ne_true,
            ← ih hbefore, hannounced]

/-- What reading yields and leaves after a block with the given last line about the length. -/
def readAfter (last : Option HeaderLine) (rest : Bytes) : Outcome × Bytes :=
  match last with
  | none => (.rejected .missingLength, rest)
  | some line =>
      match numeral? (headerValue line.text) with
      | none => (.rejected .invalidLength, rest)
      | some numeral => readBody (Decimal.value numeral) rest

theorem readHeaders_block {known announced : Announced}
    (h : announcedAfter known lines = .ok announced) (returns : Nat) (rest : Bytes) :
    readHeaders known (wireLines lines ++ (blankLine returns ++ rest)) =
      (.complete announced, rest) := by
  rw [readHeaders_wireLines h, blankLine, List.append_assoc]
  exact readHeaders_blank (.feed rest) (by simp) announced

/-- What is read after a single line about the length, or after none. -/
theorem read_lastLength (h : ∀ line ∈ lines, line.Fits) (returns : Nat) (rest : Bytes) :
    read (wireLines (lastLength? lines).toList ++ (blankLine returns ++ rest)) =
      readAfter (lastLength? lines) rest := by
  cases hlast : lastLength? lines with
  | none =>
      rw [read, Option.toList_none, readHeaders_block rfl]
      rfl
  | some line =>
      obtain ⟨hmem, hlength⟩ := isLength_of_lastLength? hlast
      have hname : headerName line.text = "content-length".toList := of_decide_eq_true hlength
      cases hnumeral : numeral? (headerValue line.text) with
      | none =>
          have hafter : Announced.missing.after line.text = .ok .invalid := by
            rw [HeaderLine.after_of_isLength hlength, hnumeral]
          have hlines : announcedAfter .missing [line] = .ok .invalid :=
            announcedAfter_cons hafter []
          rw [read, Option.toList_some, readHeaders_block hlines, readAfter, hnumeral]
      | some numeral =>
          have hfits : ¬Decimal.digitLimit < numeral.length :=
            Nat.not_lt.mpr (h line hmem numeral ⟨hname, hnumeral⟩)
          have hafter : Announced.missing.after line.text =
              .ok (.length (Decimal.value numeral)) := by
            rw [HeaderLine.after_of_announces ⟨hname, hnumeral⟩, Decimal.read, if_neg hfits]
            rfl
          have hlines : announcedAfter .missing [line] = .ok (.length (Decimal.value numeral)) :=
            announcedAfter_cons hafter []
          rw [read, Option.toList_some, readHeaders_block hlines, readAfter, hnumeral]

/-- A block is read as its last line about the length alone. -/
theorem read_block (h : ∀ line ∈ lines, line.Fits) (returns : Nat) (rest : Bytes) :
    read (wireLines lines ++ (blankLine returns ++ rest)) =
      read (wireLines (lastLength? lines).toList ++ (blankLine returns ++ rest)) := by
  obtain ⟨announced, hannounced⟩ := exists_announcedAfter h .missing
  have hlast := announcedAfter_eq_lastLength? h .missing ▸ hannounced
  rw [read, read, readHeaders_block hannounced, readHeaders_block hlast]

theorem fits_of_filter_eq {others : List HeaderLine} (h : ∀ line ∈ lines, line.Fits)
    (hsame : others.filter HeaderLine.isLength = lines.filter HeaderLine.isLength) :
    ∀ line ∈ others, line.Fits := by
  intro line hline
  cases hlength : line.isLength with
  | false => exact HeaderLine.fits_of_not_isLength hlength
  | true =>
      have hmem : line ∈ lines.filter HeaderLine.isLength :=
        hsame ▸ List.mem_filter.mpr ⟨hline, hlength⟩
      exact h line (List.mem_filter.mp hmem).1

theorem readBody_suffix (length : Nat) (rest : Bytes) : (readBody length rest).2 <:+ rest := by
  rw [readBody]
  split
  · exact List.suffix_rfl
  · split
    · exact List.nil_suffix
    · split
      · exact List.drop_suffix length rest
      · exact List.drop_suffix length rest

theorem readAfter_suffix (last : Option HeaderLine) (rest : Bytes) :
    (readAfter last rest).2 <:+ rest := by
  cases last with
  | none => exact List.suffix_rfl
  | some line =>
      rw [readAfter]
      split
      · exact List.suffix_rfl
      · exact readBody_suffix _ rest

/-- Of a block of header lines, only the last one about the length counts. Reading yields
and leaves what it does when the block is reduced to this line, or to no line if none is
about the length: no length is known without such a line, an invalid one if its value is no
numeral, and otherwise a body of its length is read. Of the bytes behind the blank line, some
are taken from the front. And nothing changes when lines about anything else are added,
removed or put elsewhere. A line that ends with a line feed after a carriage return is one
whose bytes end with this return. -/
theorem read_by_last_length (h : ∀ line ∈ lines, line.Fits) (returns : Nat) (rest : Bytes) :
    read (wireLines lines ++ (blankLine returns ++ rest)) =
      read (wireLines (lastLength? lines).toList ++ (blankLine returns ++ rest)) ∧
    read (wireLines lines ++ (blankLine returns ++ rest)) = readAfter (lastLength? lines) rest ∧
    (read (wireLines lines ++ (blankLine returns ++ rest))).2 <:+ rest ∧
    ∀ others : List HeaderLine,
      others.filter HeaderLine.isLength = lines.filter HeaderLine.isLength →
      read (wireLines others ++ (blankLine returns ++ rest)) =
        read (wireLines lines ++ (blankLine returns ++ rest)) := by
  have hread := read_block h returns rest
  have hafter := hread.trans (read_lastLength h returns rest)
  refine ⟨hread, hafter, hafter ▸ readAfter_suffix _ rest, fun others hsame => ?_⟩
  have hlast : lastLength? others = lastLength? lines := by rw [lastLength?, hsame, lastLength?]
  rw [read_block (fits_of_filter_eq h hsame), hlast, ← hread]

/-- Five lines: a length, a second one without a colon, a header with a letter of two bytes,
an oddly spelled length with a vertical tab in front of its numeral, and one more header. -/
theorem last_of_three_lengths :
    let lines : List HeaderLine := [
      ⟨Utf8.encode "Content-Length: 7\r", by decide, ⟨67, by decide, by decide⟩⟩,
      ⟨Utf8.encode "Content-Length", by decide, ⟨67, by decide, by decide⟩⟩,
      ⟨Utf8.encode "Ursprung: Köln\r", by decide, ⟨85, by decide, by decide⟩⟩,
      ⟨Utf8.encode " cOnTent-LENGTH\t:\x0b 02\r\r", by decide, ⟨32, by decide, by decide⟩⟩,
      ⟨Utf8.encode "Content-Type: text", by decide, ⟨67, by decide, by decide⟩⟩]
    read (wireLines lines ++ (blankLine 1 ++ Utf8.encode "ok!")) = (.body "ok", [33]) := by
  intro lines
  have hfits : ∀ line ∈ lines, line.Fits := by decide +kernel
  have hlast : ∃ line ∈ lastLength? lines, numeral? (headerValue line.text) = some ['0', '2'] := by
    decide +kernel
  obtain ⟨line, hline, hnumeral⟩ := hlast
  rw [(read_by_last_length hfits 1 (Utf8.encode "ok!")).2.1, Option.mem_def.mp hline, readAfter,
    hnumeral]
  decide +kernel

end LanguageServer.Frame
