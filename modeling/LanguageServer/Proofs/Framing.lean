/-
# Framing keeps a stream in step

A stream that consists of frames and of header blocks that announce no length is
read item by item: each call yields what its item holds and leaves exactly the
items after it, whatever the bodies contain. A body may hold line feeds, blank
lines or text that looks like a header; only the announced length says where it
ends.

`read_wire` is the step for one item and whatever follows it. Reading a whole
stream is the same step repeated.
-/

import LanguageServer.Proofs.HeaderBlock
import LanguageServer.Rpc.Loop

namespace LanguageServer.Frame

/-- ASCII text reads the same byte by byte. -/
theorem map_headerChar_encode {text : String} (h : ∀ c ∈ text.toList, c.toNat < 0x80) :
    (Utf8.encode text).map headerChar = text.toList := by
  rw [Utf8.encode]
  generalize text.toList = chars at h ⊢
  induction chars with
  | nil => rfl
  | cons c rest ih =>
      have hc := h c List.mem_cons_self
      rw [List.flatMap_cons, Utf8.encodeChar_of_ascii hc, List.singleton_append, List.map_cons,
        headerChar_of_ascii hc, ih fun c hc => h c (List.mem_cons_of_mem _ hc)]

/-- There is no line feed in the bytes of ASCII text without one. -/
theorem feed_not_mem_encode {text : String}
    (h : ∀ c ∈ text.toList, c.toNat < 0x80 ∧ c ≠ '\n') : 10 ∉ Utf8.encode text := by
  intro hmem
  have hfeed : headerChar 10 ∈ text.toList :=
    map_headerChar_encode (fun c hc => (h c hc).1) ▸ List.mem_map_of_mem hmem
  exact (h _ hfeed).2 rfl

/-- The text of the line that announces a length. -/
def lengthText (n : Nat) : String :=
  lengthLabel ++ String.ofList (Decimal.digits n)

theorem plain_of_mem_lengthText {n : Nat} {c : Char} (h : c ∈ (lengthText n).toList) :
    c.toNat < 0x80 ∧ c ≠ '\n' ∧ c ≠ '\r' := by
  rw [lengthText, String.toList_append, String.toList_ofList, List.mem_append] at h
  rcases h with h | h
  · have hlabel : lengthLabel.toList.all
        (fun c => decide (c.toNat < 0x80 ∧ c ≠ '\n' ∧ c ≠ '\r')) = true := by decide
    exact of_decide_eq_true (List.all_eq_true.mp hlabel c h)
  · have hdigit : 48 ≤ c.toNat ∧ c.toNat ≤ 57 :=
      Char.isDigit_iff_toNat.mp (Decimal.isDigit_of_mem_digits h)
    refine ⟨by omega, ?_, ?_⟩ <;> rintro rfl <;> simp at hdigit

theorem lengthText_toList (n : Nat) :
    (lengthText n).toList = lengthLabel.toList ++ Decimal.digits n := by
  rw [lengthText, String.toList_append, String.toList_ofList]

/-- There is no colon in the name of the header. -/
theorem ne_colon_of_mem_name {c : Char} (h : c ∈ "Content-Length".toList) :
    decide (c ≠ ':') = true := by
  have hname : "Content-Length".toList.all (fun c => decide (c ≠ ':')) = true := by decide
  exact List.all_eq_true.mp hname c h

theorem label_append (value : List Char) :
    lengthLabel.toList ++ value = "Content-Length".toList ++ ':' :: ' ' :: value := rfl

/-- The label is read as the name of the header that announces a length. -/
theorem headerName_label_append (value : List Char) :
    headerName (lengthLabel.toList ++ value) = "content-length".toList := by
  rw [label_append, headerName, List.takeWhile_append_of_pos fun c => ne_colon_of_mem_name,
    List.takeWhile_cons_of_neg (by decide), List.append_nil]
  decide

/-- The space of the label belongs to the value. -/
theorem headerValue_label_append (value : List Char) :
    headerValue (lengthLabel.toList ++ value) = ' ' :: value := by
  rw [label_append, headerValue, List.dropWhile_append_of_pos fun c => ne_colon_of_mem_name,
    List.dropWhile_cons_of_neg (by decide)]
  rfl

theorem numeral?_space_cons (value : List Char) : numeral? (' ' :: value) = numeral? value := by
  rw [numeral?, numeral?, trim_space_cons]

theorem numeral?_digits (n : Nat) : numeral? (Decimal.digits n) = some (Decimal.digits n) := by
  have hne : Decimal.digits n ≠ [] := Nat.toDigits_ne_nil
  have hdigits : (Decimal.digits n).all Char.isDigit = true :=
    List.all_eq_true.mpr fun c => Decimal.isDigit_of_mem_digits
  rw [numeral?, trim_of_isDigit hne fun c => Decimal.isDigit_of_mem_digits]
  simp [hne, hdigits]

/-- The line that announces a length, with its carriage return. -/
def lengthLine (n : Nat) : HeaderLine where
  bytes := Utf8.encode (lengthText n) ++ [13]
  unbroken := by
    intro hmem
    rw [List.mem_append] at hmem
    rcases hmem with hmem | hmem
    · refine feed_not_mem_encode (fun c hc => ?_) hmem
      exact ⟨(plain_of_mem_lengthText hc).1, (plain_of_mem_lengthText hc).2.1⟩
    · simp at hmem
  filled := by
    refine ⟨67, ?_, by decide⟩
    rw [lengthText, Utf8.encode_append, List.append_assoc, List.mem_append]
    exact Or.inl (by decide)

theorem lengthLine_text (n : Nat) : (lengthLine n).text = (lengthText n).toList := by
  have hplain : ∀ c ∈ (lengthText n).toList, c.toNat < 0x80 := fun c hc =>
    (plain_of_mem_lengthText hc).1
  have hmap : (lengthLine n).bytes.map headerChar = (lengthText n).toList ++ ['\r'] := by
    rw [lengthLine, List.map_append, map_headerChar_encode hplain]
    rfl
  rw [HeaderLine.text, headerText, hmap, Text.dropEndWhile_eq_rdropWhile,
    List.rdropWhile_concat_pos _ _ _ (by decide), List.rdropWhile_eq_self_iff]
  intro hne hreturn
  exact (plain_of_mem_lengthText (List.getLast_mem hne)).2.2 (of_decide_eq_true hreturn)

theorem lengthLine_announces (n : Nat) : (lengthLine n).Announces (Decimal.digits n) := by
  rw [HeaderLine.Announces, lengthLine_text, lengthText_toList, headerValue_label_append,
    numeral?_space_cons]
  exact ⟨headerName_label_append _, numeral?_digits n⟩

/-- A length that a stream position can reach has few digits. -/
theorem length_digits_le {n : Nat} (h : n ≤ greatestLength) :
    (Decimal.digits n).length ≤ Decimal.digitLimit := by
  have hshort : (Decimal.digits n).length ≤ 19 :=
    (Nat.length_toDigits_le_iff (by decide) (by decide)).mpr (by simp [greatestLength] at h; omega)
  exact Nat.le_trans hshort (by decide)

theorem announcedAfter_lengthLine {n : Nat}
    (h : (Decimal.digits n).length ≤ Decimal.digitLimit) :
    announcedAfter .missing [lengthLine n] = .ok (.length n) := by
  have hafter : Announced.missing.after (lengthLine n).text = .ok (.length n) := by
    rw [HeaderLine.after_of_announces (lengthLine_announces n), Decimal.read_digits h]
    rfl
  rw [announcedAfter_cons hafter]
  rfl

/-- The header of a frame with a body of the given length. -/
def lengthHeader (n : Nat) : Bytes :=
  Utf8.encode (lengthText n ++ separator)

theorem lengthHeader_append (n : Nat) (rest : Bytes) :
    lengthHeader n ++ rest = wireLines [lengthLine n] ++ (List.replicate 1 13 ++ 10 :: rest) := by
  rw [wireLines_cons, lengthHeader, Utf8.encode_append, lengthLine, List.append_assoc,
    List.append_assoc]
  rfl

theorem startsWith_lengthHeader (n : Nat) (rest : Bytes) :
    StartsWith [lengthLine n] rest (lengthHeader n ++ rest) :=
  ⟨1, 10 :: rest, .feed rest, by simp, lengthHeader_append n rest⟩

/-- A frame that fits into a stream is read as its body. -/
theorem read_lengthHeader {n : Nat} (h : n ≤ greatestLength) (rest : Bytes) :
    read (lengthHeader n ++ rest) = readBody n rest := by
  have hheaders : readHeaders .missing (lengthHeader n ++ rest) = (.complete (.length n), rest) :=
    readHeaders_eq_complete_iff.mpr ⟨[lengthLine n], startsWith_lengthHeader n rest,
      announcedAfter_lengthLine (length_digits_le h)⟩
  rw [read, hheaders]

/-- The line at the end of a header block, with any number of carriage returns. -/
def blankLine (returns : Nat) : Bytes :=
  List.replicate returns 13 ++ [10]

/-- What a stream consists of: a frame with any bytes as its body, or a header block
without a body, none of whose lines announces a length. -/
inductive Item
  | frame (body : Bytes) (fits : body.length ≤ greatestLength)
  | malformed (lines : List HeaderLine) (returns : Nat)
      (silent : ∀ line ∈ lines, ∀ numeral, ¬line.Announces numeral)

namespace Item

/-- An item as it travels. -/
def wire : Item → Bytes
  | .frame body _ => lengthHeader body.length ++ body
  | .malformed lines returns _ => wireLines lines ++ blankLine returns

/-- A rejection that the peer is told of as a failure to parse. -/
def IsParseFailure (outcome : Outcome) : Prop :=
  ∃ fault, outcome = .rejected fault ∧
    (Rpc.Dispatcher.transportFailure fault).code = Rpc.ErrorCode.parseError.toInt

/-- What reading an item yields: the text whose bytes the body is, and a failure to
parse for the body of no text and for a malformed block. -/
def Yields : Item → Outcome → Prop
  | .frame body _, outcome =>
      (∀ content, body = Utf8.encode content → outcome = .body content) ∧
      ((∀ content, body ≠ Utf8.encode content) → IsParseFailure outcome)
  | .malformed _ _ _, outcome => IsParseFailure outcome

end Item

/-- The frame of a text is the item with the bytes of that text. -/
theorem encode_eq_wire (content : String)
    (fits : (Utf8.encode content).length ≤ greatestLength) :
    encode content = (Item.frame (Utf8.encode content) fits).wire := by
  rw [encode, text, Utf8.encode_append]
  rfl

/-- A body of the announced length is taken whole, and nothing after it. -/
theorem readBody_append {body : Bytes} (fits : body.length ≤ greatestLength) (rest : Bytes) :
    readBody body.length (body ++ rest) =
      match Utf8.decode body with
      | .ok content => (.body content, rest)
      | .error fault => (.rejected (.notUtf8 fault), rest) := by
  rw [readBody, if_neg (by omega), List.take_left, if_neg (by omega)]
  cases Utf8.decode body with
  | ok content => simp only [List.drop_left]
  | error fault => simp only [List.drop_left]

/-- Lines that announce no length leave none known. -/
theorem announcedAfter_of_silent {lines : List HeaderLine} {known : Announced}
    (silent : ∀ line ∈ lines, ∀ numeral, ¬line.Announces numeral)
    (hknown : known = .missing ∨ known = .invalid) :
    ∃ announced, announcedAfter known lines = .ok announced ∧
      (announced = .missing ∨ announced = .invalid) := by
  induction lines generalizing known with
  | nil => exact ⟨known, rfl, hknown⟩
  | cons line lines ih =>
      have hlines : ∀ line ∈ lines, ∀ numeral, ¬line.Announces numeral := fun line hline =>
        silent line (List.mem_cons_of_mem _ hline)
      rcases HeaderLine.after_of_not_announces (silent line List.mem_cons_self) known with
        hafter | hafter
      · rw [announcedAfter_cons hafter]
        exact ih hlines hknown
      · rw [announcedAfter_cons hafter]
        exact ih hlines (Or.inr rfl)

/-- One call reads one item: it yields what the item holds and leaves what follows
it. -/
theorem read_wire (item : Item) (rest : Bytes) :
    ∃ outcome, read (item.wire ++ rest) = (outcome, rest) ∧ item.Yields outcome := by
  cases item with
  | frame body fits =>
      rw [Item.wire, List.append_assoc, read_lengthHeader fits, readBody_append fits]
      cases hdecode : Utf8.decode body with
      | ok content =>
          obtain rfl := Utf8.decode_eq_ok_iff.mp hdecode
          refine ⟨.body content, rfl, ?_, fun hforeign => absurd rfl (hforeign content)⟩
          intro content' hsame
          rw [hsame, Utf8.decode_encode, Except.ok.injEq] at hdecode
          rw [hdecode]
      | error fault =>
          refine ⟨.rejected (.notUtf8 fault), rfl, ?_, fun _ => ⟨_, rfl, rfl⟩⟩
          rintro content rfl
          rw [Utf8.decode_encode] at hdecode
          cases hdecode
  | malformed lines returns silent =>
      obtain ⟨announced, hlines, hannounced⟩ := announcedAfter_of_silent silent (Or.inl rfl)
      have hheaders : readHeaders .missing (wireLines lines ++ blankLine returns ++ rest) =
          (.complete announced, rest) :=
        readHeaders_eq_complete_iff.mpr ⟨lines, ⟨returns, 10 :: rest, .feed rest, by simp,
          by simp [blankLine]⟩, hlines⟩
      rw [Item.wire, read, hheaders]
      rcases hannounced with rfl | rfl
      · exact ⟨.rejected .missingLength, rfl, _, rfl, rfl⟩
      · exact ⟨.rejected .invalidLength, rfl, _, rfl, rfl⟩

/-- The frame of a text is read as this text. -/
theorem read_encode {content : String} (fits : (Utf8.encode content).length ≤ greatestLength)
    (rest : Bytes) : read (encode content ++ rest) = (.body content, rest) := by
  obtain ⟨outcome, hread, hyields, -⟩ := read_wire (.frame (Utf8.encode content) fits) rest
  rw [encode_eq_wire content fits, hread, hyields content rfl]

theorem read_nil : read [] = (.finished, []) := by
  simp [read, readHeaders]

/-- Items one after the other. -/
def stream (items : List Item) : Bytes :=
  items.flatMap Item.wire

/-- What a number of calls yield, each with the bytes it leaves unread. -/
def reads : Nat → Bytes → List (Outcome × Bytes)
  | 0, _ => []
  | calls + 1, input => read input :: reads calls (read input).2

theorem stream_cons (item : Item) (items : List Item) (rest : Bytes) :
    stream (item :: items) ++ rest = item.wire ++ (stream items ++ rest) := by
  rw [stream, List.flatMap_cons, List.append_assoc, stream]

/-- Each call on a stream reads its item, and leaves the items after it. -/
theorem reads_stream (items : List Item) (rest : Bytes) (i : Nat) (hi : i < items.length) :
    ∃ outcome unread, (reads items.length (stream items ++ rest))[i]? = some (outcome, unread) ∧
      items[i].Yields outcome ∧ stream (items.take (i + 1)) ++ unread = stream items ++ rest := by
  induction items generalizing i with
  | nil => exact absurd hi (Nat.not_lt_zero i)
  | cons item items ih =>
      obtain ⟨outcome, hread, hyields⟩ := read_wire item (stream items ++ rest)
      rw [stream_cons, List.length_cons, reads, hread]
      cases i with
      | zero => exact ⟨outcome, _, rfl, hyields, by simp [stream]⟩
      | succ i =>
          obtain ⟨later, unread, hcall, hlater, hunread⟩ := ih i (Nat.lt_of_succ_lt_succ hi)
          refine ⟨later, unread, by simpa using hcall, hlater, ?_⟩
          rw [List.take_succ_cons, stream_cons, hunread]

/-- The call after the last item of a stream finds its end. -/
theorem reads_stream_end (items : List Item) :
    reads (items.length + 1) (stream items) =
      reads items.length (stream items) ++ [(.finished, [])] := by
  induction items with
  | nil => simp [reads, stream, read_nil]
  | cons item items ih =>
      obtain ⟨outcome, hread, _⟩ := read_wire item (stream items)
      have hcalls (calls : Nat) : reads (calls + 1) (stream (item :: items)) =
          (outcome, stream items) :: reads calls (stream items) := by
        rw [← List.append_nil (stream (item :: items)), stream_cons, List.append_nil, reads, hread]
      rw [List.length_cons, hcalls, hcalls, ih, List.cons_append]

/-- A stream of items is read in step with them. The call for each item yields what
the item holds, and when it returns exactly the items up to this one have been
consumed. Where nothing follows the items, one more call finds the end of the
stream. The frames of texts are among the items. -/
theorem stream_read_in_step (items : List Item) (rest : Bytes) :
    (∀ i (hi : i < items.length), ∃ outcome unread,
      (reads items.length (stream items ++ rest))[i]? = some (outcome, unread) ∧
      items[i].Yields outcome ∧
      stream (items.take (i + 1)) ++ unread = stream items ++ rest) ∧
    (rest = [] → reads (items.length + 1) (stream items ++ rest) =
      reads items.length (stream items ++ rest) ++ [(.finished, [])]) ∧
    ∀ content (fits : (Utf8.encode content).length ≤ greatestLength),
      (Item.frame (Utf8.encode content) fits).wire = encode content := by
  refine ⟨fun i hi => reads_stream items rest i hi, ?_, fun content fits =>
    (encode_eq_wire content fits).symm⟩
  rintro rfl
  rw [List.append_nil]
  exact reads_stream_end items

end LanguageServer.Frame
