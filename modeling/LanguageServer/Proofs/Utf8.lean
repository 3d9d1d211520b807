/-
# UTF-8 is read back

`Utf8.decode` and `Utf8.encode` are inverse to each other: bytes are read as a
text exactly when they are the bytes of that text (`decode_eq_ok_iff`), so the
fault of a failed reading is never about bytes that some text has. The argument
goes character by character. One direction reads the one to four bytes of a
character back; the other shows that bytes in the announced ranges are those of
the character they denote, which is where overlong forms, surrogates and code
points past the last one are kept out.
-/

import LanguageServer.Text.Utf8

namespace LanguageServer.Utf8

/-- A number that fits into a byte is the number of its byte. -/
theorem toNat_toUInt8 {n : Nat} (h : n < 256) : n.toUInt8.toNat = n := by
  simp [Nat.toUInt8, Nat.mod_eq_of_lt h]

/-- A byte is the byte of its number. -/
theorem toUInt8_eq {n : Nat} {b : UInt8} (h : n = b.toNat) : n.toUInt8 = b := by
  subst h
  simp

/-- A code point is the number of its character. -/
theorem toNat_charOfNat {code : Nat} (h : code.isValidChar) : (Char.ofNat code).toNat = code := by
  rw [Char.ofNat, dif_pos h]
  rfl

theorem announce?_one {lead : Nat} (h : lead < 0x80) :
    announce? lead = some (0, lead, 0x80, 0xBF) := by
  rw [announce?, if_pos h]

theorem announce?_two {lead : Nat} (hle : 0xC2 ≤ lead) (hlt : lead < 0xE0) :
    announce? lead = some (1, lead - 0xC0, 0x80, 0xBF) := by
  rw [announce?, if_neg (by omega), if_neg (by omega), if_pos hlt]

theorem announce?_three {lead : Nat} (hle : 0xE0 ≤ lead) (hlt : lead < 0xF0) :
    announce? lead = some (2, lead - 0xE0, if lead = 0xE0 then 0xA0 else 0x80,
      if lead = 0xED then 0x9F else 0xBF) := by
  rw [announce?, if_neg (by omega), if_neg (by omega), if_neg (by omega), if_pos hlt]

theorem announce?_four {lead : Nat} (hle : 0xF0 ≤ lead) (hlt : lead < 0xF5) :
    announce? lead = some (3, lead - 0xF0, if lead = 0xF0 then 0x90 else 0x80,
      if lead = 0xF4 then 0x8F else 0xBF) := by
  rw [announce?, if_neg (by omega), if_neg (by omega), if_neg (by omega), if_neg (by omega),
    if_pos hlt]

/-- The four kinds of leading bytes are all there are. -/
theorem announce?_cases {lead wanted payload low high : Nat}
    (h : announce? lead = some (wanted, payload, low, high)) :
    (lead < 0x80 ∧ wanted = 0 ∧ payload = lead) ∨
    (0xC2 ≤ lead ∧ lead < 0xE0 ∧ wanted = 1 ∧ payload = lead - 0xC0 ∧ low = 0x80 ∧ high = 0xBF) ∨
    (0xE0 ≤ lead ∧ lead < 0xF0 ∧ wanted = 2 ∧ payload = lead - 0xE0 ∧
      low = (if lead = 0xE0 then 0xA0 else 0x80) ∧ high = (if lead = 0xED then 0x9F else 0xBF)) ∨
    (0xF0 ≤ lead ∧ lead < 0xF5 ∧ wanted = 3 ∧ payload = lead - 0xF0 ∧
      low = (if lead = 0xF0 then 0x90 else 0x80) ∧
      high = (if lead = 0xF4 then 0x8F else 0xBF)) := by
  by_cases hone : lead < 0x80
  · rw [announce?_one hone] at h
    simp only [Option.some.injEq, Prod.mk.injEq] at h
    exact Or.inl ⟨hone, h.1.symm, h.2.1.symm⟩
  by_cases hnone : lead < 0xC2
  · simp [announce?, hone, hnone] at h
  by_cases htwo : lead < 0xE0
  · rw [announce?_two (by omega) htwo] at h
    simp only [Option.some.injEq, Prod.mk.injEq] at h
    exact Or.inr (Or.inl ⟨by omega, htwo, h.1.symm, h.2.1.symm, h.2.2.1.symm, h.2.2.2.symm⟩)
  by_cases hthree : lead < 0xF0
  · rw [announce?_three (by omega) hthree] at h
    simp only [Option.some.injEq, Prod.mk.injEq] at h
    exact Or.inr (Or.inr (Or.inl
      ⟨by omega, hthree, h.1.symm, h.2.1.symm, h.2.2.1.symm, h.2.2.2.symm⟩))
  by_cases hfour : lead < 0xF5
  · rw [announce?_four (by omega) hfour] at h
    simp only [Option.some.injEq, Prod.mk.injEq] at h
    exact Or.inr (Or.inr (Or.inr
      ⟨by omega, hfour, h.1.symm, h.2.1.symm, h.2.2.1.symm, h.2.2.2.symm⟩))
  · simp [announce?, hone, hnone, htwo, hthree, hfour] at h

/-- A byte in the expected range adds its six bits. -/
theorem continuation_cons {used code low high wanted n : Nat} {rest : Bytes} (hlow : low ≤ n)
    (hhigh : n ≤ high) (hbyte : n < 256) :
    continuation used code low high (wanted + 1) (n.toUInt8 :: rest) =
      continuation (used + 1) (code * 0x40 + (n - 0x80)) 0x80 0xBF wanted rest := by
  rw [continuation, toNat_toUInt8 hbyte, if_pos ⟨hlow, hhigh⟩]

/-- A byte that is accepted was there and lies in the expected range. -/
theorem exists_of_continuation_eq_ok {used code low high wanted result : Nat} {rest : Bytes}
    (h : continuation used code low high (wanted + 1) rest = .ok result) :
    ∃ b more, rest = b :: more ∧ low ≤ b.toNat ∧ b.toNat ≤ high ∧
      continuation (used + 1) (code * 0x40 + (b.toNat - 0x80)) 0x80 0xBF wanted more =
        .ok result := by
  cases rest with
  | nil => simp [continuation] at h
  | cons b more =>
      rw [continuation] at h
      split at h
      · next hrange => exact ⟨b, more, rfl, hrange.1, hrange.2, h⟩
      · cases h

/-- The character that starts with a byte, from what the byte announces and what
the bytes after it add. -/
theorem charAt_eq_ok {lead : UInt8} {rest : Bytes} {wanted payload low high code : Nat}
    (hlead : announce? lead.toNat = some (wanted, payload, low, high))
    (htail : continuation 1 payload low high wanted rest = .ok code) :
    charAt lead rest = .ok (Char.ofNat code, wanted) := by
  simp only [charAt, hlead, htail, Except.map]

theorem exists_of_charAt_eq_ok {lead : UInt8} {rest : Bytes} {c : Char} {used : Nat}
    (h : charAt lead rest = .ok (c, used)) :
    ∃ wanted payload low high code, announce? lead.toNat = some (wanted, payload, low, high) ∧
      continuation 1 payload low high wanted rest = .ok code ∧
      c = Char.ofNat code ∧ used = wanted := by
  simp only [charAt] at h
  split at h
  · cases h
  · next wanted payload low high hlead =>
      cases htail : continuation 1 payload low high wanted rest with
      | error fault => rw [htail] at h; cases h
      | ok code =>
          rw [htail] at h
          obtain ⟨rfl, rfl⟩ : Char.ofNat code = c ∧ wanted = used := by simpa [Except.map] using h
          exact ⟨wanted, payload, low, high, code, hlead, htail, rfl, rfl⟩

/-- The bytes of a character are read as that character, whatever follows them. -/
theorem charAt_encodeChar (c : Char) (rest : Bytes) :
    ∃ lead tail, encodeChar c = lead :: tail ∧
      charAt lead (tail ++ rest) = .ok (c, tail.length) := by
  have hvalid : c.toNat.isValidChar := c.valid
  simp only [Nat.isValidChar] at hvalid
  have hchar : Char.ofNat c.toNat = c := Char.ofNat_toNat c
  simp only [encodeChar]
  generalize c.toNat = code at hvalid hchar ⊢
  subst hchar
  -- The cases are those of the encoding; each has one more byte to continue.
  split
  · have hlead : code.toUInt8.toNat = code := toNat_toUInt8 (by omega)
    refine ⟨_, _, rfl, charAt_eq_ok (announce?_one (by omega)) ?_⟩
    rw [hlead]
    rfl
  split
  · have hlead : (0xC0 + code / 0x40).toUInt8.toNat = 0xC0 + code / 0x40 :=
      toNat_toUInt8 (by omega)
    refine ⟨_, _, rfl, charAt_eq_ok (announce?_two (by omega) (by omega)) ?_⟩
    simp only [hlead, List.cons_append, List.nil_append, List.length_cons, List.length_nil]
    rw [continuation_cons (by omega) (by omega) (by omega), continuation]
    exact congrArg Except.ok (by omega)
  split
  · have hlead : (0xE0 + code / 0x1000).toUInt8.toNat = 0xE0 + code / 0x1000 :=
      toNat_toUInt8 (by omega)
    refine ⟨_, _, rfl, charAt_eq_ok (announce?_three (by omega) (by omega)) ?_⟩
    simp only [hlead, List.cons_append, List.nil_append, List.length_cons, List.length_nil]
    rw [continuation_cons (by split <;> omega) (by split <;> omega) (by omega),
      continuation_cons (by omega) (by omega) (by omega), continuation]
    exact congrArg Except.ok (by omega)
  · have hlead : (0xF0 + code / 0x40000).toUInt8.toNat = 0xF0 + code / 0x40000 :=
      toNat_toUInt8 (by omega)
    refine ⟨_, _, rfl, charAt_eq_ok (announce?_four (by omega) (by omega)) ?_⟩
    simp only [hlead, List.cons_append, List.nil_append, List.length_cons, List.length_nil]
    rw [continuation_cons (by split <;> omega) (by split <;> omega) (by omega),
      continuation_cons (by omega) (by omega) (by omega),
      continuation_cons (by omega) (by omega) (by omega), continuation]
    exact congrArg Except.ok (by omega)

/-- Two bytes of the right ranges are those of the character they denote. -/
theorem encodeChar_two {code : Nat} {lead b : UInt8} (hle : 0xC2 ≤ lead.toNat)
    (hlt : lead.toNat < 0xE0) (hb : 0x80 ≤ b.toNat ∧ b.toNat ≤ 0xBF)
    (hcode : code = (lead.toNat - 0xC0) * 0x40 + (b.toNat - 0x80)) :
    encodeChar (Char.ofNat code) = [lead, b] := by
  have hvalid : code.isValidChar := Or.inl (by omega)
  rw [encodeChar, toNat_charOfNat hvalid, if_neg (by omega), if_pos (by omega),
    toUInt8_eq (b := lead) (by omega), toUInt8_eq (b := b) (by omega)]

/-- Three bytes of the right ranges are those of the character they denote. The
range of the second byte keeps out shorter forms and surrogates. -/
theorem encodeChar_three {code : Nat} {lead b₁ b₂ : UInt8} (hle : 0xE0 ≤ lead.toNat)
    (hlt : lead.toNat < 0xF0) (hb₁ : 0x80 ≤ b₁.toNat ∧ b₁.toNat ≤ 0xBF)
    (hb₂ : 0x80 ≤ b₂.toNat ∧ b₂.toNat ≤ 0xBF) (hshort : lead.toNat = 0xE0 → 0xA0 ≤ b₁.toNat)
    (hsurrogate : lead.toNat = 0xED → b₁.toNat ≤ 0x9F)
    (hcode : code = ((lead.toNat - 0xE0) * 0x40 + (b₁.toNat - 0x80)) * 0x40 + (b₂.toNat - 0x80)) :
    encodeChar (Char.ofNat code) = [lead, b₁, b₂] := by
  have hvalid : code.isValidChar := by
    simp only [Nat.isValidChar]
    omega
  rw [encodeChar, toNat_charOfNat hvalid, if_neg (by omega), if_neg (by omega), if_pos (by omega),
    toUInt8_eq (b := lead) (by omega), toUInt8_eq (b := b₁) (by omega),
    toUInt8_eq (b := b₂) (by omega)]

/-- Four bytes of the right ranges are those of the character they denote. The
range of the second byte keeps out shorter forms and code points past the last
one. -/
theorem encodeChar_four {code : Nat} {lead b₁ b₂ b₃ : UInt8} (hle : 0xF0 ≤ lead.toNat)
    (hlt : lead.toNat < 0xF5) (hb₁ : 0x80 ≤ b₁.toNat ∧ b₁.toNat ≤ 0xBF)
    (hb₂ : 0x80 ≤ b₂.toNat ∧ b₂.toNat ≤ 0xBF) (hb₃ : 0x80 ≤ b₃.toNat ∧ b₃.toNat ≤ 0xBF)
    (hshort : lead.toNat = 0xF0 → 0x90 ≤ b₁.toNat) (hlast : lead.toNat = 0xF4 → b₁.toNat ≤ 0x8F)
    (hcode : code = (((lead.toNat - 0xF0) * 0x40 + (b₁.toNat - 0x80)) * 0x40 + (b₂.toNat - 0x80))
      * 0x40 + (b₃.toNat - 0x80)) :
    encodeChar (Char.ofNat code) = [lead, b₁, b₂, b₃] := by
  have hvalid : code.isValidChar := by
    simp only [Nat.isValidChar]
    omega
  rw [encodeChar, toNat_charOfNat hvalid, if_neg (by omega), if_neg (by omega), if_neg (by omega),
    toUInt8_eq (b := lead) (by omega), toUInt8_eq (b := b₁) (by omega),
    toUInt8_eq (b := b₂) (by omega), toUInt8_eq (b := b₃) (by omega)]

/-- A character that is read takes its own bytes and no others. -/
theorem encodeChar_of_charAt {lead : UInt8} {rest : Bytes} {c : Char} {used : Nat}
    (h : charAt lead rest = .ok (c, used)) :
    ∃ tail more, rest = tail ++ more ∧ tail.length = used ∧ encodeChar c = lead :: tail := by
  obtain ⟨wanted, payload, low, high, code, hlead, htail, rfl, rfl⟩ := exists_of_charAt_eq_ok h
  obtain ⟨hlt, rfl, hpayload⟩ | ⟨hle, hlt, rfl, hpayload, hlow, hhigh⟩ |
    ⟨hle, hlt, rfl, hpayload, hlow, hhigh⟩ | ⟨hle, hlt, rfl, hpayload, hlow, hhigh⟩ :=
    announce?_cases hlead
  · refine ⟨[], rest, rfl, rfl, ?_⟩
    rw [hpayload] at htail
    obtain rfl : lead.toNat = code := by simpa [continuation] using htail
    have hvalid : lead.toNat.isValidChar := Or.inl (by omega)
    rw [encodeChar, toNat_charOfNat hvalid, if_pos hlt, toUInt8_eq rfl]
  · rw [hpayload, hlow, hhigh] at htail
    obtain ⟨b, more, rfl, hmin, hmax, hcode⟩ := exists_of_continuation_eq_ok htail
    simp only [continuation, Except.ok.injEq] at hcode
    exact ⟨[b], more, rfl, rfl, encodeChar_two hle hlt ⟨hmin, hmax⟩ hcode.symm⟩
  · rw [hpayload, hlow, hhigh] at htail
    obtain ⟨b₁, more, rfl, hmin₁, hmax₁, htail⟩ := exists_of_continuation_eq_ok htail
    obtain ⟨b₂, more, rfl, hmin₂, hmax₂, hcode⟩ := exists_of_continuation_eq_ok htail
    simp only [continuation, Except.ok.injEq] at hcode
    refine ⟨[b₁, b₂], more, rfl, rfl, ?_⟩
    refine encodeChar_three hle hlt ⟨?_, ?_⟩ ⟨hmin₂, hmax₂⟩ ?_ ?_ hcode.symm
    all_goals grind
  · rw [hpayload, hlow, hhigh] at htail
    obtain ⟨b₁, more, rfl, hmin₁, hmax₁, htail⟩ := exists_of_continuation_eq_ok htail
    obtain ⟨b₂, more, rfl, hmin₂, hmax₂, htail⟩ := exists_of_continuation_eq_ok htail
    obtain ⟨b₃, more, rfl, hmin₃, hmax₃, hcode⟩ := exists_of_continuation_eq_ok htail
    simp only [continuation, Except.ok.injEq] at hcode
    refine ⟨[b₁, b₂, b₃], more, rfl, rfl, ?_⟩
    refine encodeChar_four hle hlt ⟨?_, ?_⟩ ⟨hmin₂, hmax₂⟩ ⟨hmin₃, hmax₃⟩ ?_ ?_ hcode.symm
    all_goals grind

theorem decodeFrom_flatMap_encodeChar (chars : List Char) (offset : Nat) :
    decodeFrom offset (chars.flatMap encodeChar) = .ok chars := by
  induction chars generalizing offset with
  | nil => simp [decodeFrom]
  | cons c chars ih =>
      obtain ⟨lead, tail, hencode, hread⟩ := charAt_encodeChar c (chars.flatMap encodeChar)
      rw [List.flatMap_cons, hencode, List.cons_append, decodeFrom, hread]
      simp only [List.drop_left, ih, Except.map]

theorem flatMap_encodeChar_of_decodeFrom {offset : Nat} {bytes : Bytes} {chars : List Char}
    (h : decodeFrom offset bytes = .ok chars) : chars.flatMap encodeChar = bytes := by
  fun_induction decodeFrom offset bytes generalizing chars with
  | case1 =>
      obtain rfl : [] = chars := by simpa using h
      rfl
  | case2 => cases h
  | case3 offset lead rest c used hread ih =>
      obtain ⟨tail, more, rfl, rfl, hencode⟩ := encodeChar_of_charAt hread
      cases hlater : decodeFrom (offset + 1 + tail.length) ((tail ++ more).drop tail.length) with
      | error fault => rw [hlater] at h; cases h
      | ok later =>
          rw [hlater] at h
          obtain rfl : c :: later = chars := by simpa [Except.map] using h
          rw [List.flatMap_cons, hencode, ih hlater, List.drop_left, List.cons_append]

/-- The bytes of a text are read as that text. -/
theorem decode_encode (text : String) : decode (encode text) = .ok text := by
  rw [decode, encode, decodeFrom_flatMap_encodeChar]
  simp [Except.map]

/-- Bytes are read as a text exactly when they are the bytes of that text. -/
theorem decode_eq_ok_iff {bytes : Bytes} {text : String} :
    decode bytes = .ok text ↔ bytes = encode text := by
  constructor
  · intro h
    cases hchars : decodeFrom 0 bytes with
    | error fault => rw [decode, hchars] at h; cases h
    | ok chars =>
        obtain rfl : String.ofList chars = text := by
          rw [decode, hchars] at h
          simpa [Except.map] using h
        rw [encode, String.toList_ofList, flatMap_encodeChar_of_decodeFrom hchars]
  · rintro rfl
    exact decode_encode text

/-- Bytes that belong to no text are refused. -/
theorem exists_decode_eq_error {bytes : Bytes} (h : ∀ text, bytes ≠ encode text) :
    ∃ fault, decode bytes = .error fault := by
  cases hdecode : decode bytes with
  | error fault => exact ⟨fault, rfl⟩
  | ok text => exact absurd (decode_eq_ok_iff.mp hdecode) (h text)

/-- The bytes of a text that is joined from two are joined from theirs. -/
theorem encode_append (first second : String) :
    encode (first ++ second) = encode first ++ encode second := by
  simp [encode]

/-- An ASCII character is its own byte. -/
theorem encodeChar_of_ascii {c : Char} (h : c.toNat < 0x80) : encodeChar c = [c.toNat.toUInt8] := by
  rw [encodeChar, if_pos h]

end LanguageServer.Utf8
