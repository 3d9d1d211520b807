/-
# What is read strictly is read from a stream

`Frame.contentLength?` accepts a header only with the exact label, and `Frame.read` takes
header lines apart at their colon, after it has cut the carriage returns off their ends.
Both trim the value in the same way, so a header that the first one accepts announces the
same length to the second one, however its numeral is padded. A frame with such a header
is then taken apart and read alike (`Frame.decoded_as_read`).

Nothing is claimed about headers that only the stream accepts, such as one whose name is
in lower case.
-/

import LanguageServer.Proofs.BuiltMessage

namespace LanguageServer

namespace Text

variable {α : Type} {p : α → Bool}

/-- The end of a text is dropped up to a character that is kept. -/
theorem dropEndWhile_append_cons {kept : α} (h : p kept = false) (before after : List α) :
    dropEndWhile p (before ++ kept :: after) = before ++ kept :: dropEndWhile p after := by
  have hkept : ((kept :: before.reverse).dropWhile p) = kept :: before.reverse :=
    List.dropWhile_cons_of_neg (by simp [h])
  rw [dropEndWhile, dropEndWhile, List.reverse_append, List.reverse_cons, List.append_assoc,
    List.singleton_append, List.dropWhile_append]
  split
  · next hempty =>
      rw [hkept, List.isEmpty_iff.mp hempty]
      simp
  · simp

theorem dropEndWhile_append {dropped : List α} (h : ∀ c ∈ dropped, p c = true) (text : List α) :
    dropEndWhile p (text ++ dropped) = dropEndWhile p text := by
  have hdropped : ∀ c ∈ dropped.reverse, p c = true := fun c hc => h c (List.mem_reverse.mp hc)
  rw [dropEndWhile, dropEndWhile, List.reverse_append, List.dropWhile_append_of_pos hdropped]

/-- What is trimmed at the end is trimmed also where nothing else is left. -/
theorem trimWhile_append {dropped : List α} (h : ∀ c ∈ dropped, p c = true) (text : List α) :
    trimWhile p (text ++ dropped) = trimWhile p text := by
  rw [trimWhile, trimWhile, List.dropWhile_append]
  split
  · next hempty =>
      have hnothing : dropped.dropWhile p = [] := List.dropWhile_eq_nil_iff.mpr h
      rw [List.isEmpty_iff.mp hempty, hnothing]
  · exact dropEndWhile_append h _

end Text

namespace Frame

theorem trim_dropReturns (text : List Char) :
    trim (Text.dropEndWhile (· = '\r') text) = trim text := by
  have hreturns : ∀ c ∈ text.rtakeWhile (· = '\r'), Text.isBlank c = true := by
    intro c hc
    have hreturn : c = '\r' := by simpa using List.mem_rtakeWhile_imp hc
    rw [hreturn]
    decide
  calc
    trim (Text.dropEndWhile (· = '\r') text) =
        trim (text.rdropWhile (· = '\r') ++ text.rtakeWhile (· = '\r')) := by
      rw [trim, trim, Text.trimWhile_append hreturns, Text.dropEndWhile_eq_rdropWhile]
    _ = trim text := by rw [List.rdropWhile_append_rtakeWhile]

theorem numeral?_dropReturns (value : List Char) :
    numeral? (Text.dropEndWhile (· = '\r') value) = numeral? value := by
  rw [numeral?, numeral?, trim_dropReturns]

/-- A header is accepted strictly if it is the label with a numeral, which may be padded,
of a length that can be read. -/
theorem contentLength?_eq_ok_some_iff {header : String} {n : Nat} :
    contentLength? header = .ok (some n) ↔
      ∃ value numeral, header = lengthLabel ++ value ∧ numeral? value.toList = some numeral ∧
        Decimal.read numeral = .ok n := by
  constructor
  swap
  · rintro ⟨value, numeral, rfl, hnumeral, hread⟩
    exact contentLength?_label_append hnumeral hread
  intro h
  simp only [contentLength?] at h
  split at h
  · next hlabel =>
      obtain ⟨value, hvalue⟩ := List.isPrefixOf_iff_prefix.mp hlabel
      rw [← hvalue, List.drop_left] at h
      cases hnumeral : numeral? value with
      | none =>
          rw [hnumeral] at h
          cases h
      | some numeral =>
          rw [hnumeral] at h
          refine ⟨String.ofList value, numeral, ?_, ?_, ?_⟩
          · rw [← String.toList_inj, ← hvalue, String.toList_append, String.toList_ofList]
          · rw [String.toList_ofList, hnumeral]
          · simp only at h
            cases hread : Decimal.read numeral with
            | error fault =>
                rw [hread] at h
                cases h
            | ok m =>
                rw [hread] at h
                cases h
                rfl
  · cases h

variable {value : String}

/-- A value behind the label, as a line with its carriage return. -/
def labelLine (value : String)
    (plain : ∀ c ∈ (lengthLabel ++ value).toList, c.toNat < 0x80 ∧ c ≠ '\n') : HeaderLine where
  bytes := Utf8.encode (lengthLabel ++ value) ++ [13]
  unbroken := by
    intro hmem
    rw [List.mem_append] at hmem
    rcases hmem with hmem | hmem
    · exact feed_not_mem_encode plain hmem
    · simp at hmem
  filled := by
    refine ⟨67, ?_, by decide⟩
    rw [Utf8.encode_append, List.append_assoc, List.mem_append]
    exact Or.inl (by decide)

/-- The label ends with a space, so only the value can lose returns at its end. -/
theorem labelLine_text
    (plain : ∀ c ∈ (lengthLabel ++ value).toList, c.toNat < 0x80 ∧ c ≠ '\n') :
    (labelLine value plain).text =
      lengthLabel.toList ++ Text.dropEndWhile (· = '\r') value.toList := by
  have hmap : (labelLine value plain).bytes.map headerChar =
      (lengthLabel ++ value).toList ++ ['\r'] := by
    rw [labelLine, List.map_append, map_headerChar_encode fun c hc => (plain c hc).1]
    rfl
  have hlabel (rest : List Char) :
      lengthLabel.toList ++ rest = "Content-Length".toList ++ [':'] ++ ' ' :: rest := by
    rw [label_append, List.append_assoc, List.singleton_append]
  rw [HeaderLine.text, headerText, hmap, Text.dropEndWhile_eq_rdropWhile,
    List.rdropWhile_concat_pos _ _ _ (by decide), ← Text.dropEndWhile_eq_rdropWhile,
    String.toList_append, hlabel, Text.dropEndWhile_append_cons (by decide), hlabel]

/-- A line with the label announces the numeral that its value is read as. -/
theorem labelLine_announces
    (plain : ∀ c ∈ (lengthLabel ++ value).toList, c.toNat < 0x80 ∧ c ≠ '\n')
    {numeral : List Char} (h : numeral? value.toList = some numeral) :
    (labelLine value plain).Announces numeral := by
  rw [HeaderLine.Announces, labelLine_text, headerValue_label_append, numeral?_space_cons,
    numeral?_dropReturns]
  exact ⟨headerName_label_append _, h⟩

theorem announcedAfter_labelLine
    (plain : ∀ c ∈ (lengthLabel ++ value).toList, c.toNat < 0x80 ∧ c ≠ '\n')
    {numeral : List Char} {n : Nat} (hnumeral : numeral? value.toList = some numeral)
    (hread : Decimal.read numeral = .ok n) :
    announcedAfter .missing [labelLine value plain] = .ok (.length n) := by
  have hafter : Announced.missing.after (labelLine value plain).text = .ok (.length n) := by
    rw [HeaderLine.after_of_announces (labelLine_announces plain hnumeral), hread]
    rfl
  rw [announcedAfter_cons hafter]
  rfl

/-- A header that is accepted strictly makes a stream yield a body of the length it
announces. -/
theorem read_of_contentLength? {header : String} {n : Nat}
    (plain : ∀ c ∈ header.toList, c.toNat < 0x80 ∧ c ≠ '\n')
    (h : contentLength? header = .ok (some n)) (rest : Bytes) :
    read (Utf8.encode (header ++ separator) ++ rest) = readBody n rest := by
  obtain ⟨value, numeral, rfl, hnumeral, hread⟩ := contentLength?_eq_ok_some_iff.mp h
  have hwire : Utf8.encode (lengthLabel ++ value ++ separator) ++ rest =
      wireLines [labelLine value plain] ++ (List.replicate 1 13 ++ 10 :: rest) := by
    rw [wireLines_cons, labelLine, Utf8.encode_append (lengthLabel ++ value), List.append_assoc,
      List.append_assoc]
    rfl
  have hheaders : readHeaders .missing (Utf8.encode (lengthLabel ++ value ++ separator) ++ rest) =
      (.complete (.length n), rest) :=
    readHeaders_eq_complete_iff.mpr ⟨[labelLine value plain],
      ⟨1, 10 :: rest, .feed rest, by simp, hwire⟩, announcedAfter_labelLine plain hnumeral hread⟩
  rw [read, hheaders]

/-- The strict functions and the reader of streams agree. The frame of a text is taken apart
into this text and a header that announces its length in bytes. And whenever a header of
ASCII without line feeds announces the length of a body that a stream position can reach,
the header and the body are what the two of them, with the separator in between, are
taken apart into, and the body is what a stream with them yields, in front of exactly the
bytes that follow. -/
theorem decoded_as_read :
    (∀ body, (Utf8.encode body).length ≤ greatestLength →
      ∃ header, decode? (encode body) = some (header, body) ∧
        contentLength? header = .ok (some (Utf8.encode body).length)) ∧
    ∀ header body, (∀ c ∈ header.toList, c.toNat < 0x80 ∧ c ≠ '\n') →
      (Utf8.encode body).length ≤ greatestLength →
      contentLength? header = .ok (some (Utf8.encode body).length) →
      decode? (Utf8.encode (header ++ separator ++ body)) = some (header, body) ∧
      ∀ rest, read (Utf8.encode (header ++ separator ++ body) ++ rest) = (.body body, rest) := by
  constructor
  · intro body hfits
    exact ⟨header body, decode?_encode body, contentLength?_header hfits⟩
  · intro header body plain hfits hlength
    have hfeed : '\n' ∉ header.toList := fun hmem => (plain '\n' hmem).2 rfl
    refine ⟨decode?_framed hfeed body, fun rest => ?_⟩
    rw [Utf8.encode_append (header ++ separator), List.append_assoc,
      read_of_contentLength? plain hlength, readBody_append hfits, Utf8.decode_encode]

/-- A numeral with zeros in front, between a file separator, a vertical tab and a carriage
return; the body is a separator and a letter of two bytes. -/
theorem padded_length_read :
    let header := lengthLabel ++ "\x1c\x0b006\r"
    let body := "\r\n\r\né"
    contentLength? header = .ok (some (Utf8.encode body).length) ∧
      decode? (Utf8.encode (header ++ separator ++ body)) = some (header, body) ∧
      read (Utf8.encode (header ++ separator ++ body) ++ [10]) = (.body body, [10]) := by
  intro header body
  have hall : header.toList.all (fun c => c.toNat < 0x80 && c ≠ '\n') = true := by decide
  have plain : ∀ c ∈ header.toList, c.toNat < 0x80 ∧ c ≠ '\n' := by
    simpa only [List.all_eq_true, Bool.and_eq_true, decide_eq_true_eq] using hall
  have hfits : (Utf8.encode body).length ≤ greatestLength := by decide
  have hnumeral : numeral? "\x1c\x0b006\r".toList = some ['0', '0', '6'] := by decide
  have hread : Decimal.read ['0', '0', '6'] = .ok (Utf8.encode body).length := by decide +kernel
  have hlength : contentLength? header = .ok (some (Utf8.encode body).length) :=
    contentLength?_label_append hnumeral hread
  obtain ⟨hdecode, hstream⟩ := decoded_as_read.2 header body plain hfits hlength
  exact ⟨hlength, hdecode, hstream [10]⟩

end Frame

end LanguageServer
