/-
# Header blocks

How `Frame.readHeaders` takes a stream apart. A stream is empty, or starts with a
blank line, or with a header line (`stream_induction`), and reading does one of
three things accordingly. The two results are exact: headers are read to their
end from a stream that starts with a block of lines and a blank one
(`readHeaders_eq_complete_iff`), and reading breaks down at a line that announces
too long a numeral (`readHeaders_eq_broken_iff`). In every other case the stream
ends among the headers.
-/

import LanguageServer.Frame.Reader
import LanguageServer.Proofs.Numeral
import LanguageServer.Proofs.Utf8

namespace LanguageServer.Frame

/-- A byte stands for a carriage return only if it is one. -/
theorem headerChar_eq_return_iff {b : UInt8} : headerChar b = '\r' ↔ b = 13 := by
  constructor
  · intro h
    unfold headerChar at h
    split at h
    · next hlt =>
      have hvalid : b.toNat.isValidChar := Or.inl (by have := b.toNat_lt; omega)
      have hcode := congrArg Char.toNat h
      rw [Utf8.toNat_charOfNat hvalid] at hcode
      exact UInt8.toNat_inj.mp hcode
    · exact absurd h (by decide)
  · rintro rfl
    rfl

/-- An ASCII character is the character of its byte. -/
theorem headerChar_of_ascii {c : Char} (h : c.toNat < 0x80) : headerChar c.toNat.toUInt8 = c := by
  have hbyte : c.toNat.toUInt8.toNat = c.toNat := Utf8.toNat_toUInt8 (by omega)
  have hlt : c.toNat.toUInt8 < 0x80 := UInt8.lt_iff_toNat_lt.mpr (by rw [hbyte]; exact h)
  rw [headerChar, if_pos hlt, hbyte, Char.ofNat_toNat]

/-- How a line of a stream ends: with a line feed and the rest of the stream, or
with the stream itself. -/
inductive LineEnd : Bytes → Bytes → Prop
  | feed (rest : Bytes) : LineEnd (10 :: rest) rest
  | stream : LineEnd [] []

/-- The first line of a stream stops at its line feed. -/
theorem firstLine_append {line tail rest : Bytes} (hline : 10 ∉ line) (hend : LineEnd tail rest) :
    firstLine (line ++ tail) = line := by
  have hkept : ∀ b ∈ line, decide (b ≠ 10) = true := fun b hb =>
    decide_eq_true (ne_of_mem_of_not_mem hb hline)
  rw [firstLine, List.takeWhile_append_of_pos hkept]
  cases hend with
  | feed => rw [List.takeWhile_cons_of_neg (by decide), List.append_nil]
  | stream => rw [List.takeWhile_nil, List.append_nil]

/-- What follows the first line of a stream and its line feed. -/
theorem drop_firstLine (line : Bytes) {tail rest : Bytes} (hend : LineEnd tail rest) :
    (line ++ tail).drop (line.length + 1) = rest := by
  rw [← List.drop_drop, List.drop_left]
  cases hend with
  | feed => rfl
  | stream => rfl

/-- Every stream has a first line. -/
theorem exists_line (input : Bytes) :
    ∃ line tail rest, input = line ++ tail ∧ 10 ∉ line ∧ LineEnd tail rest := by
  induction input with
  | nil => exact ⟨[], [], [], rfl, List.not_mem_nil, .stream⟩
  | cons b more ih =>
      by_cases hfeed : b = 10
      · subst hfeed
        exact ⟨[], 10 :: more, more, rfl, List.not_mem_nil, .feed more⟩
      · obtain ⟨line, tail, rest, rfl, hline, hend⟩ := ih
        refine ⟨b :: line, tail, rest, rfl, ?_, hend⟩
        rw [List.mem_cons, not_or]
        exact ⟨fun h => hfeed h.symm, hline⟩

/-- Reading headers takes one line at a time. -/
theorem readHeaders_line {line tail rest : Bytes} (hline : 10 ∉ line) (hend : LineEnd tail rest)
    (hne : line ++ tail ≠ []) (known : Announced) :
    readHeaders known (line ++ tail) =
      if (headerText line).isEmpty then (.complete known, rest)
      else
        match known.after (headerText line) with
        | .error fault => (.broken fault, rest)
        | .ok announced => readHeaders announced rest := by
  have hfirst := firstLine_append hline hend
  have hdrop := drop_firstLine line hend
  obtain ⟨b, more, hcons⟩ := List.exists_cons_of_ne_nil hne
  rw [hcons] at hfirst hdrop ⊢
  cases hblank : (headerText line).isEmpty with
  | true =>
      rw [readHeaders]
      simp only [hfirst, hdrop, hblank, if_true]
  | false =>
      cases hafter : known.after (headerText line) with
      | error fault =>
          rw [readHeaders]
          simp only [hfirst, hdrop, hblank, hafter, Bool.false_eq_true, if_false]
      | ok announced =>
          rw [readHeaders]
          simp only [hfirst, hdrop, hblank, hafter, Bool.false_eq_true, if_false]

/-- A line is blank exactly when it holds nothing but carriage returns. -/
theorem headerText_eq_nil_iff {line : Bytes} : headerText line = [] ↔ ∀ b ∈ line, b = 13 := by
  rw [headerText, Text.dropEndWhile_eq_rdropWhile, List.rdropWhile_eq_nil_iff]
  constructor
  · intro h b hb
    exact headerChar_eq_return_iff.mp (of_decide_eq_true (h _ (List.mem_map_of_mem hb)))
  · intro h c hc
    obtain ⟨b, hb, rfl⟩ := List.mem_map.mp hc
    exact decide_eq_true (headerChar_eq_return_iff.mpr (h b hb))

/-- A line of a header block, without the line feed that ends it. A line with
nothing but carriage returns would end the block. -/
structure HeaderLine where
  bytes : Bytes
  unbroken : 10 ∉ bytes
  filled : ∃ b ∈ bytes, b ≠ 13

namespace HeaderLine

/-- The text of a line. -/
def text (line : HeaderLine) : List Char :=
  headerText line.bytes

/-- The line as it travels. -/
def wire (line : HeaderLine) : Bytes :=
  line.bytes ++ [10]

/-- A line announces a length if it is named so and its value is a numeral. -/
def Announces (line : HeaderLine) (numeral : List Char) : Prop :=
  headerName line.text = "content-length".toList ∧ numeral? (headerValue line.text) = some numeral

theorem text_isEmpty (line : HeaderLine) : line.text.isEmpty = false := by
  obtain ⟨b, hb, hne⟩ := line.filled
  rw [List.isEmpty_eq_false_iff]
  intro hnil
  exact hne (headerText_eq_nil_iff.mp hnil b hb)

theorem bytes_ne_nil (line : HeaderLine) : line.bytes ≠ [] := by
  obtain ⟨b, hb, _⟩ := line.filled
  exact List.ne_nil_of_mem hb

/-- A line that announces a numeral is worth what reading the numeral gives,
whatever was known before. -/
theorem after_of_announces {line : HeaderLine} {numeral : List Char} (h : line.Announces numeral)
    (known : Announced) : known.after line.text = (Decimal.read numeral).map .length := by
  rw [Announced.after, if_pos h.1, h.2]

/-- A line that announces no numeral leaves what is known, or makes it invalid. -/
theorem after_of_not_announces {line : HeaderLine} (h : ∀ numeral, ¬line.Announces numeral)
    (known : Announced) :
    known.after line.text = .ok known ∨ known.after line.text = .ok .invalid := by
  rw [Announced.after]
  split
  · next hname =>
      cases hnumeral : numeral? (headerValue line.text) with
      | none => exact Or.inr rfl
      | some numeral => exact absurd ⟨hname, hnumeral⟩ (h numeral)
  · exact Or.inl rfl

/-- A line fails exactly when it announces a numeral with too many digits. -/
theorem after_eq_error_iff {line : HeaderLine} {known : Announced} {fault : Decimal.Oversized} :
    known.after line.text = .error fault ↔
      ∃ numeral, line.Announces numeral ∧ Decimal.digitLimit < numeral.length ∧
        fault = ⟨numeral.length⟩ := by
  constructor
  · intro h
    by_cases hannounces : ∃ numeral, line.Announces numeral
    · obtain ⟨numeral, hnumeral⟩ := hannounces
      rw [after_of_announces hnumeral, Decimal.read] at h
      split at h
      · next hlong =>
          obtain rfl : ⟨numeral.length⟩ = fault := by simpa [Except.map] using h
          exact ⟨numeral, hnumeral, hlong, rfl⟩
      · simp [Except.map] at h
    · have hsilent : ∀ numeral, ¬line.Announces numeral := fun numeral hnumeral =>
        hannounces ⟨numeral, hnumeral⟩
      rcases after_of_not_announces hsilent known with hafter | hafter <;> rw [hafter] at h <;>
        cases h
  · rintro ⟨numeral, hnumeral, hlong, rfl⟩
    rw [after_of_announces hnumeral, Decimal.read, if_pos hlong]
    rfl

end HeaderLine

/-- A header line is taken into account, and reading goes on after it. -/
theorem readHeaders_headerLine {tail rest : Bytes} (line : HeaderLine) (hend : LineEnd tail rest)
    (known : Announced) :
    readHeaders known (line.bytes ++ tail) =
      match known.after line.text with
      | .error fault => (.broken fault, rest)
      | .ok announced => readHeaders announced rest := by
  have hne : line.bytes ++ tail ≠ [] := List.append_ne_nil_of_left_ne_nil line.bytes_ne_nil tail
  rw [readHeaders_line line.unbroken hend hne, ← HeaderLine.text, line.text_isEmpty]
  rfl

/-- Carriage returns alone end the headers. -/
theorem readHeaders_blank {returns : Nat} {tail rest : Bytes} (hend : LineEnd tail rest)
    (hne : List.replicate returns 13 ++ tail ≠ []) (known : Announced) :
    readHeaders known (List.replicate returns 13 ++ tail) = (.complete known, rest) := by
  have hunbroken : 10 ∉ List.replicate returns (13 : UInt8) := by simp
  have hblank : headerText (List.replicate returns 13) = [] :=
    headerText_eq_nil_iff.mpr fun b hb => List.eq_of_mem_replicate hb
  rw [readHeaders_line hunbroken hend hne, hblank]
  rfl

/-- What holds of the empty stream, of a blank line, and of a header line if it holds
of what follows, holds of every stream. These are the cases of reading headers. -/
theorem stream_induction {motive : Bytes → Prop} (nil : motive [])
    (blank : ∀ returns tail rest, LineEnd tail rest → List.replicate returns 13 ++ tail ≠ [] →
      motive (List.replicate returns 13 ++ tail))
    (header : ∀ (line : HeaderLine) tail rest, LineEnd tail rest → motive rest →
      motive (line.bytes ++ tail))
    (input : Bytes) : motive input := by
  induction hlength : input.length using Nat.strongRecOn generalizing input with
  | _ length ih =>
      obtain ⟨line, tail, rest, rfl, hline, hend⟩ := exists_line input
      by_cases hempty : line ++ tail = []
      · rw [hempty]
        exact nil
      by_cases hfilled : ∃ b ∈ line, b ≠ 13
      · have hshorter : rest.length < (line ++ tail).length := by
          rw [← drop_firstLine line hend, List.length_drop]
          have := List.length_pos_iff.mpr hempty
          omega
        exact header ⟨line, hline, hfilled⟩ tail rest hend (ih _ (hlength ▸ hshorter) rest rfl)
      · have hreturns : line = List.replicate line.length 13 := by
          refine List.eq_replicate_iff.mpr ⟨rfl, fun b hb => ?_⟩
          by_contra hne
          exact hfilled ⟨b, hb, hne⟩
        rw [hreturns] at hempty ⊢
        exact blank _ tail rest hend hempty

/-- What header lines announce after what is known, taken in order. -/
def announcedAfter (known : Announced) (lines : List HeaderLine) :
    Except Decimal.Oversized Announced :=
  lines.foldlM (fun known line => known.after line.text) known

theorem announcedAfter_cons {known next : Announced} {line : HeaderLine}
    (h : known.after line.text = .ok next) (lines : List HeaderLine) :
    announcedAfter known (line :: lines) = announcedAfter next lines := by
  rw [announcedAfter, List.foldlM_cons, h]
  rfl

/-- The lines of a block as they travel. -/
def wireLines (lines : List HeaderLine) : Bytes :=
  lines.flatMap HeaderLine.wire

theorem wireLines_cons (line : HeaderLine) (lines : List HeaderLine) (rest : Bytes) :
    wireLines (line :: lines) ++ rest = line.bytes ++ 10 :: (wireLines lines ++ rest) := by
  simp [wireLines, HeaderLine.wire]

theorem readHeaders_wireLines {known announced : Announced} {lines : List HeaderLine}
    (h : announcedAfter known lines = .ok announced) (rest : Bytes) :
    readHeaders known (wireLines lines ++ rest) = readHeaders announced rest := by
  induction lines generalizing known with
  | nil =>
      obtain rfl : known = announced := by simpa [announcedAfter, pure, Except.pure] using h
      rfl
  | cons line lines ih =>
      rw [wireLines_cons, readHeaders_headerLine line (.feed _)]
      cases hafter : known.after line.text with
      | error fault =>
          rw [announcedAfter, List.foldlM_cons, hafter] at h
          cases h
      | ok next => exact ih (announcedAfter_cons hafter lines ▸ h)

/-- A stream that starts with a block of header lines and the blank line after them.
The stream may end with the blank line. -/
def StartsWith (lines : List HeaderLine) (rest input : Bytes) : Prop :=
  ∃ returns tail, LineEnd tail rest ∧ List.replicate returns 13 ++ tail ≠ [] ∧
    input = wireLines lines ++ (List.replicate returns 13 ++ tail)

/-- Headers are read to their end exactly from a stream that starts with a block
of them, and what they announce is what its lines do. -/
theorem readHeaders_eq_complete_iff {known announced : Announced} {input rest : Bytes} :
    readHeaders known input = (.complete announced, rest) ↔
      ∃ lines, StartsWith lines rest input ∧ announcedAfter known lines = .ok announced := by
  constructor
  · intro h
    induction input using stream_induction generalizing known with
    | nil => simp [readHeaders] at h
    | blank returns tail rest' hend hne =>
        rw [readHeaders_blank hend hne] at h
        obtain ⟨rfl, rfl⟩ : known = announced ∧ rest' = rest := by simpa using h
        exact ⟨[], ⟨returns, tail, hend, hne, rfl⟩, rfl⟩
    | header line tail rest' hend ih =>
        rw [readHeaders_headerLine line hend] at h
        cases hafter : known.after line.text with
        | error fault => rw [hafter] at h; simp at h
        | ok next =>
            rw [hafter] at h
            cases hend with
            | stream => simp [readHeaders] at h
            | feed =>
                obtain ⟨lines, ⟨returns, tail, hend, hne, rfl⟩, hlines⟩ := ih h
                refine ⟨line :: lines, ⟨returns, tail, hend, hne, ?_⟩, ?_⟩
                · rw [wireLines_cons]
                · rw [announcedAfter_cons hafter, hlines]
  · rintro ⟨lines, ⟨returns, tail, hend, hne, rfl⟩, hlines⟩
    rw [readHeaders_wireLines hlines, readHeaders_blank hend hne]

/-- Reading headers breaks down exactly at a line after fine ones that announces
too long a numeral. The line may be the unfinished last one of the stream. -/
theorem readHeaders_eq_broken_iff {known : Announced} {input rest : Bytes}
    {fault : Decimal.Oversized} :
    readHeaders known input = (.broken fault, rest) ↔
      ∃ lines line tail announced, LineEnd tail rest ∧
        input = wireLines lines ++ (HeaderLine.bytes line ++ tail) ∧
        announcedAfter known lines = .ok announced ∧ announced.after line.text = .error fault := by
  constructor
  · intro h
    induction input using stream_induction generalizing known with
    | nil => simp [readHeaders] at h
    | blank returns tail rest' hend hne =>
        rw [readHeaders_blank hend hne] at h
        simp at h
    | header line tail rest' hend ih =>
        rw [readHeaders_headerLine line hend] at h
        cases hafter : known.after line.text with
        | error fault' =>
            rw [hafter] at h
            obtain ⟨rfl, rfl⟩ : fault' = fault ∧ rest' = rest := by simpa using h
            exact ⟨[], line, tail, known, hend, rfl, rfl, hafter⟩
        | ok next =>
            rw [hafter] at h
            cases hend with
            | stream => simp [readHeaders] at h
            | feed =>
                obtain ⟨lines, last, tail, announced, hend, rfl, hlines, hlast⟩ := ih h
                refine ⟨line :: lines, last, tail, announced, hend, ?_, ?_, hlast⟩
                · rw [wireLines_cons]
                · rw [announcedAfter_cons hafter, hlines]
  · rintro ⟨lines, line, tail, announced, hend, rfl, hlines, hline⟩
    rw [readHeaders_wireLines hlines, readHeaders_headerLine line hend, hline]

end LanguageServer.Frame
