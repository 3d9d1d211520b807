/-
# Messages that are built are read back

A reply or a notification goes out as a frame. If its parts are plain values (`Json.Plain`) and
there is room for its containers, it can be built, and whoever takes the frame apart, reads
its body and asks what message it is finds the message that was built (`received?`). The
header names the length of the body, whatever the body is.

Everything in a message has to be plain: a code with too many digits, a half of a surrogate
pair in a text, or a container for which there is no room keeps the message from being built.
-/

import LanguageServer.Proofs.Framing
import LanguageServer.Proofs.JsonText
import LanguageServer.Rpc.Reply

namespace LanguageServer

namespace Text

/-- A word is found behind a text in which its second character does not occur. The end
of that text may look like the start of the word. -/
theorem find?_append {α : Type} [DecidableEq α] {first second : α} (hne : first ≠ second)
    {before : List α} (h : second ∉ before) (word after : List α) :
    find? (first :: second :: word) (before ++ (first :: second :: word ++ after)) =
      some before.length := by
  induction before with
  | nil =>
      have hprefix :
          (first :: second :: word).isPrefixOf (first :: second :: word ++ after) = true :=
        List.isPrefixOf_iff_prefix.mpr (List.prefix_append _ _)
      rw [List.nil_append, List.cons_append, find?, ← List.cons_append, if_pos hprefix]
      rfl
  | cons c before ih =>
      rw [List.mem_cons, not_or] at h
      have hprefix : ¬(first :: second :: word).isPrefixOf
          (c :: (before ++ (first :: second :: word ++ after))) := by
        rw [List.isPrefixOf_iff_prefix, List.cons_prefix_cons]
        rintro ⟨-, hrest⟩
        cases before with
        | nil => exact hne (List.cons_prefix_cons.mp hrest).1.symm
        | cons d before =>
            exact h.2 (List.mem_cons.mpr (Or.inl (List.cons_prefix_cons.mp hrest).1))
      rw [List.cons_append, find?, if_neg hprefix, ih h.2]
      rfl

end Text

namespace Frame

theorem header_eq (body : String) : header body = lengthText (Utf8.encode body).length := rfl

/-- A header without line feeds is taken apart from its body, which may look like
anything. -/
theorem decode?_framed {header : String} (h : '\n' ∉ header.toList) (body : String) :
    decode? (Utf8.encode (header ++ separator ++ body)) = some (header, body) := by
  have hfind : Text.find? separator.toList
      (header.toList ++ (separator.toList ++ body.toList)) = some header.toList.length :=
    Text.find?_append (by decide) h ['\r', '\n'] body.toList
  have hdrop : (header.toList ++ (separator.toList ++ body.toList)).drop
      (header.toList.length + separator.toList.length) = body.toList := by
    rw [← List.drop_drop, List.drop_left, List.drop_left]
  rw [decode?, Utf8.decode_encode]
  simp only [split?, String.toList_append, List.append_assoc, Text.cut?, hfind,
    Option.map_some, List.take_left, hdrop, String.ofList_toList]

/-- A frame is taken apart into its header and its body. -/
theorem decode?_encode (body : String) : decode? (encode body) = some (header body, body) := by
  have hfeed : '\n' ∉ (header body).toList := by
    intro hmem
    exact (plain_of_mem_lengthText (header_eq body ▸ hmem)).2.1 rfl
  exact decode?_framed hfeed body

/-- The exact label and a numeral behind it, which may be padded, announce what the numeral is
read as. -/
theorem contentLength?_label_append {value : String} {numeral : List Char} {n : Nat}
    (hnumeral : numeral? value.toList = some numeral) (hread : Decimal.read numeral = .ok n) :
    contentLength? (lengthLabel ++ value) = .ok (some n) := by
  have hlabel : lengthLabel.toList.isPrefixOf (lengthLabel.toList ++ value.toList) = true :=
    List.isPrefixOf_iff_prefix.mpr (List.prefix_append _ _)
  simp only [contentLength?, String.toList_append, hlabel, if_true, List.drop_left, hnumeral,
    hread]
  rfl

/-- The header of a frame announces the length of its body. -/
theorem contentLength?_header {body : String}
    (h : (Utf8.encode body).length ≤ greatestLength) :
    contentLength? (header body) = .ok (some (Utf8.encode body).length) := by
  refine contentLength?_label_append ?_ (Decimal.read_digits (length_digits_le h))
  rw [String.toList_ofList, numeral?_digits]

end Frame

namespace Rpc

theorem classify_success (id : Id) (result : Json) :
    Message.classify (success id.toJson result) = .response (some id) result none := by
  cases id <;> rfl

theorem classify_refusal (id : Id) (failure : Failure) :
    Message.classify (refusal id.toJson failure) =
      .response (some id) .null (some failure.toJson) := by
  cases id <;> rfl

theorem classify_notification (method : Text) (params : Json) :
    Message.classify (notification method params) =
      .notification method params.asStructured? := rfl

section Plain

variable {depth : Nat} {id : Id} {value : Json}

/-- An id is no container. -/
theorem plain_toJson (h : id.toJson.Plain 0) : id.toJson.Plain depth := by
  cases id with
  | int n => exact Json.Plain.int_iff.mpr (Json.Plain.int_iff.mp h)
  | float x => cases h
  | str s => exact Json.Plain.str_iff.mpr (Json.Plain.str_iff.mp h)

theorem plain_success (hid : id.toJson.Plain 0) (hvalue : value.Plain depth) :
    (success id.toJson value).Plain (depth + 1) := by
  simp [success, plain_toJson hid, hvalue]

theorem plain_refusal (hid : id.toJson.Plain 0) (hvalue : value.Plain depth) {code : Int}
    (hcode : (Decimal.digits code.natAbs).length ≤ Decimal.digitLimit) {message : Text}
    (hmessage : message.holdsHalf = false) :
    (refusal id.toJson ⟨code, message, value⟩).Plain (depth + 2) := by
  simp [refusal, errorReply, Failure.toJson, errorObject, plain_toJson hid, hcode, hmessage,
    hvalue]

theorem plain_notification (hvalue : value.Plain depth) {method : Text}
    (hmethod : method.holdsHalf = false) : (notification method value).Plain (depth + 1) := by
  simp [notification, announcement, hvalue, hmethod]

end Plain

section Received

variable [NestingLimits]

/-- The message that framed bytes hold, unless they cannot be taken apart. Its body may
have no value. -/
def received? (framed : Bytes) : Option (Except BodyFault Message) :=
  (Frame.decode? framed).map fun (_, content) =>
    (Message.readBody content).map Message.classify

/-- How many containers may be nested in a message that is sent and received. -/
def nestingRoom : Nat :=
  min NestingLimits.reading NestingLimits.writing

/-- A message that is built is received as this message. -/
def ReceivedAs (body : Json) (message : Message) : Prop :=
  ∃ packet, build body = .ok packet ∧ received? packet.frame = some (.ok message)

/-- A plain message is received as what it is. -/
theorem receivedAs_classify {body : Json} {depth : Nat} (h : body.Plain depth)
    (hroom : depth ≤ nestingRoom) : ReceivedAs body (Message.classify body) := by
  obtain ⟨hreading, hwriting⟩ := Nat.le_min.mp hroom
  obtain ⟨packet, hpacket⟩ := exists_build_eq_ok_iff.mpr (h.sendable hwriting)
  have hread : Message.readBody packet.content = .ok body := by
    rw [← packet.printed, value_of_build hpacket]
    exact Message.readBody_of_read (Json.read_render h hreading)
  refine ⟨packet, hpacket, ?_⟩
  simp only [received?, Packet.frame, Frame.decode?_encode, Option.map_some, hread]
  rfl

/-- Messages with plain parts can be built and are received as what they are, where there is
room for their containers. A reply with a result is a response with that result, and a reply
with a failure is a response with the code, the message and the data of the failure. A
notification has its parameters if they are an object or an array, and none otherwise. The
header of each frame announces the length of the body in bytes, if a stream position can
reach it. -/
theorem built_messages_received {value : Json} {depth : Nat} (hvalue : value.Plain depth)
    {id : Id} (hid : id.toJson.Plain 0) {code : Int}
    (hcode : (Decimal.digits code.natAbs).length ≤ Decimal.digitLimit) {method message : Text}
    (hmethod : method.holdsHalf = false) (hmessage : message.holdsHalf = false) :
    (depth + 1 ≤ nestingRoom →
      ReceivedAs (success id.toJson value) (.response (some id) value none)) ∧
    (depth + 2 ≤ nestingRoom →
      ReceivedAs (refusal id.toJson ⟨code, message, value⟩) (.response (some id) .null
        (some (.obj [("code", .int code), ("message", .str message), ("data", value)])))) ∧
    (depth + 1 ≤ nestingRoom →
      ReceivedAs (notification method value) (.notification method
        (match value with
          | .obj fields => some (.obj fields)
          | .arr items => some (.arr items)
          | _ => none))) ∧
    ∀ body packet, build body = .ok packet →
      ∃ header, Frame.decode? packet.frame = some (header, packet.content) ∧
        ((Utf8.encode packet.content).length ≤ Frame.greatestLength →
          Frame.contentLength? header = .ok (some (Utf8.encode packet.content).length)) := by
  refine ⟨fun hroom => ?_, fun hroom => ?_, fun hroom => ?_, fun body packet _ => ?_⟩
  · rw [← classify_success]
    exact receivedAs_classify (plain_success hid hvalue) hroom
  · have hreceived := receivedAs_classify (plain_refusal hid hvalue hcode hmessage) hroom
    rw [classify_refusal] at hreceived
    exact hreceived
  · have hreceived := receivedAs_classify (plain_notification hvalue hmethod) hroom
    rw [classify_notification] at hreceived
    cases value <;> exact hreceived
  · exact ⟨_, Frame.decode?_encode _, Frame.contentLength?_header⟩

end Received

/-- A value with nested containers, an empty text and a negative integer, under the id of a
text that has to be escaped. -/
theorem nested_value_received :
    let value : Json := .obj [("a", .arr [.null, .int (-7), .obj []]), ("", .str "\r\n\r\n")]
    letI : NestingLimits := .usual
    value.Plain 3 ∧ (Id.str "\"\\\x01").toJson.Plain 0 ∧
      (Decimal.digits (-32000 : Int).natAbs).length ≤ Decimal.digitLimit ∧
      ("m" : Text).holdsHalf = false ∧ 3 + 2 ≤ nestingRoom ∧
      ReceivedAs (refusal (Id.str "\"\\\x01").toJson ⟨-32000, "m", value⟩)
        (.response (some (.str "\"\\\x01")) .null
          (some (.obj [("code", .int (-32000)), ("message", .str "m"), ("data", value)]))) := by
  intro value
  let _ : NestingLimits := .usual
  have hvalue : value.Plain 3 := by
    simp [value]
    decide
  have hid : (Id.str "\"\\\x01").toJson.Plain 0 := .str (Text.holdsHalf_ofString _)
  have hcode : (Decimal.digits (-32000 : Int).natAbs).length ≤ Decimal.digitLimit := by decide
  have hmessage : ("m" : Text).holdsHalf = false := Text.holdsHalf_ofString _
  have hroom : 3 + 2 ≤ nestingRoom := by decide
  exact ⟨hvalue, hid, hcode, hmessage, hroom,
    (built_messages_received hvalue hid hcode hmessage hmessage).2.1 hroom⟩

/-- Arrays within each other. -/
def nestedArrays : Nat → Json
  | 0 => .null
  | depth + 1 => .arr [nestedArrays depth]

/-- There has to be room for every array. -/
theorem sendable_nestedArrays_iff {room depth : Nat} :
    (nestedArrays depth).Sendable room ↔ depth ≤ room := by
  induction depth generalizing room with
  | zero => simp [nestedArrays]
  | succ depth ih =>
      rw [nestedArrays, Json.Sendable.arr_iff, List.forall_mem_singleton, ih]
      omega

/-- A message is not built with half of a surrogate pair in its text, with the least code that
has too many digits, or with a thousand arrays within each other. -/
theorem messages_not_built :
    letI : NestingLimits := .usual
    (¬∃ packet, build (refusal (Id.int 1).toJson ⟨-32000, ⟨[.half 0]⟩, .null⟩) = .ok packet) ∧
    (¬∃ packet, build (refusal (Id.int 1).toJson ⟨10 ^ 4300, "m", .null⟩) = .ok packet) ∧
    ¬∃ packet, build (success (Id.int 1).toJson (nestedArrays 1000)) = .ok packet := by
  let _ : NestingLimits := .usual
  have hlength (k : Nat) : (Decimal.digits ((10 : Int) ^ k).natAbs).length = k + 1 := by
    rw [Int.natAbs_pow]
    exact Decimal.length_digits_pow k
  have hlong : Decimal.digitLimit < (Decimal.digits ((10 : Int) ^ 4300).natAbs).length := by
    rw [hlength]
    decide
  have henough : ¬1000 ≤ NestingLimits.writing - 1 := by decide
  simp only [exists_build_eq_ok_iff]
  refine ⟨fun h => ?_, fun h => ?_, fun h => ?_⟩
  · have hmessage := ((@sendable_refusal_iff _ (some (Id.int 1)) _).mp h).2.message
    cases hmessage
  · exact absurd ((@sendable_refusal_iff _ (some (Id.int 1)) _).mp h).2.code (Nat.not_le.mpr hlong)
  · exact henough (sendable_nestedArrays_iff.mp (sendable_success_iff.mp h).2)

end Rpc

end LanguageServer
