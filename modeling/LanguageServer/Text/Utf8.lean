/-
# UTF-8

Characters as bytes and back. Decoding stops at the first fault and says which
bytes are bad and why: a byte that starts no character, a byte that does not
continue the character begun before it, or an end in the middle of one.
-/

namespace LanguageServer

/-- What travels over a stream. -/
abbrev Bytes := List UInt8

namespace Utf8

/-- The one to four bytes of a character. -/
def encodeChar (c : Char) : Bytes :=
  let code := c.toNat
  if code < 0x80 then [code.toUInt8]
  else if code < 0x800 then
    [(0xC0 + code / 0x40).toUInt8, (0x80 + code % 0x40).toUInt8]
  else if code < 0x10000 then
    [(0xE0 + code / 0x1000).toUInt8, (0x80 + code / 0x40 % 0x40).toUInt8,
      (0x80 + code % 0x40).toUInt8]
  else
    [(0xF0 + code / 0x40000).toUInt8, (0x80 + code / 0x1000 % 0x40).toUInt8,
      (0x80 + code / 0x40 % 0x40).toUInt8, (0x80 + code % 0x40).toUInt8]

/-- The bytes of a text. -/
def encode (text : String) : Bytes :=
  text.toList.flatMap encodeChar

/-- Why bytes are no text. -/
inductive Reason
  | invalidStart
  | invalidContinuation
  | unexpectedEnd
  deriving DecidableEq, Repr

/-- The first bad bytes of a text: where they start, how many they are, and the
first of them. -/
structure Fault where
  offset : Nat
  count : Nat
  lead : UInt8
  reason : Reason
  deriving DecidableEq, Repr

/-- What a leading byte announces: how many bytes continue it, the payload it
carries itself, and the range of the byte that comes next. The ranges keep out
overlong forms, surrogates and code points past the last one. -/
def announce? (lead : Nat) : Option (Nat × Nat × Nat × Nat) :=
  if lead < 0x80 then some (0, lead, 0x80, 0xBF)
  else if lead < 0xC2 then none
  else if lead < 0xE0 then some (1, lead - 0xC0, 0x80, 0xBF)
  else if lead < 0xF0 then
    some (2, lead - 0xE0, if lead = 0xE0 then 0xA0 else 0x80, if lead = 0xED then 0x9F else 0xBF)
  else if lead < 0xF5 then
    some (3, lead - 0xF0, if lead = 0xF0 then 0x90 else 0x80, if lead = 0xF4 then 0x8F else 0xBF)
  else none

/-- Adds the payloads of the continuing bytes to the code point read so far.
`used` counts the bytes of the character already accepted. -/
def continuation (used code low high : Nat) : Nat → Bytes → Except (Nat × Reason) Nat
  | 0, _ => .ok code
  | _ + 1, [] => .error (used, .unexpectedEnd)
  | wanted + 1, b :: rest =>
      if low ≤ b.toNat ∧ b.toNat ≤ high then
        continuation (used + 1) (code * 0x40 + (b.toNat - 0x80)) 0x80 0xBF wanted rest
      else .error (used, .invalidContinuation)

/-- The character that starts with the byte `lead`, and how many of the bytes
after it belong to it. -/
def charAt (lead : UInt8) (rest : Bytes) : Except (Nat × Reason) (Char × Nat) :=
  match announce? lead.toNat with
  | none => .error (1, .invalidStart)
  | some (wanted, payload, low, high) =>
      (continuation 1 payload low high wanted rest).map fun code => (Char.ofNat code, wanted)

/-- The characters of bytes that stand at an offset of a longer text. -/
def decodeFrom (offset : Nat) : Bytes → Except Fault (List Char)
  | [] => .ok []
  | lead :: rest =>
      match charAt lead rest with
      | .error (count, reason) => .error ⟨offset, count, lead, reason⟩
      | .ok (c, used) => (decodeFrom (offset + 1 + used) (rest.drop used)).map (c :: ·)
  termination_by bytes => bytes.length
  decreasing_by simp only [List.length_cons, List.length_drop]; omega

/-- The text that bytes encode, or the first fault in them. -/
def decode (bytes : Bytes) : Except Fault String :=
  (decodeFrom 0 bytes).map String.ofList

/-- The wording of a reason. -/
def Reason.message : Reason → String
  | .invalidStart => "invalid start byte"
  | .invalidContinuation => "invalid continuation byte"
  | .unexpectedEnd => "unexpected end of data"

/-- A byte as two hexadecimal digits. -/
def hexByte (b : UInt8) : String :=
  String.ofList [Nat.digitChar (b.toNat / 16), Nat.digitChar (b.toNat % 16)]

/-- The wording of a fault: one bad byte is shown, several are given by their
first and last offset. -/
def Fault.message (fault : Fault) : String :=
  let bad :=
    if fault.count = 1 then s!"byte 0x{hexByte fault.lead} in position {fault.offset}"
    else s!"bytes in position {fault.offset}-{fault.offset + fault.count - 1}"
  "'utf-8' codec can't decode " ++ bad ++ ": " ++ fault.reason.message

end Utf8

end LanguageServer
