/-
# Texts

A text is a sequence of code points. Apart from the characters these are the halves of
surrogate pairs: a client can write half of a pair into a message by an escape, and the
text then holds it like a character. But only characters have a form in UTF-8, so a text
that holds a half cannot be sent (`asString`).
-/

namespace LanguageServer

/-- A code point: a character, or a half of a surrogate pair that stands alone. -/
inductive CodePoint
  | char (c : Char)
  /-- The code points from U+D800 to U+DFFF. -/
  | half (offset : Fin 0x800)
  deriving DecidableEq, Repr, Inhabited

namespace CodePoint

instance : Coe Char CodePoint := ⟨.char⟩

/-- The number of a code point. -/
def toNat : CodePoint → Nat
  | .char c => c.toNat
  | .half offset => 0xD800 + offset

/-- The code point of a number below `0x110000`. -/
def ofNat (code : Nat) : CodePoint :=
  if h : 0xD800 ≤ code ∧ code < 0xE000 then .half ⟨code - 0xD800, by omega⟩
  else .char (Char.ofNat code)

/-- Code points are ordered by their numbers. -/
instance : LE CodePoint := ⟨fun c d => c.toNat ≤ d.toNat⟩

instance (c d : CodePoint) : Decidable (c ≤ d) :=
  inferInstanceAs (Decidable (c.toNat ≤ d.toNat))

/-- Whether a code point is no character. -/
def isHalf : CodePoint → Bool
  | .char _ => false
  | .half _ => true

@[simp]
theorem toNat_char (c : Char) : (char c).toNat = c.toNat := rfl

@[simp]
theorem ofNat_toNat (c : CodePoint) : ofNat c.toNat = c := by
  cases c with
  | char c =>
      have hvalid : c.toNat.isValidChar := c.valid
      have hnone : ¬(0xD800 ≤ c.toNat ∧ c.toNat < 0xE000) := by
        rcases hvalid with hlow | ⟨hhigh, -⟩ <;> omega
      rw [toNat, ofNat, dif_neg hnone, Char.ofNat_toNat]
  | half offset =>
      have hhalf : 0xD800 ≤ 0xD800 + offset.val ∧ 0xD800 + offset.val < 0xE000 := by omega
      simp only [toNat, ofNat, dif_pos hhalf, Nat.add_sub_cancel_left]

/-- Code points are told apart by their numbers. -/
theorem toNat_inj {c d : CodePoint} : c.toNat = d.toNat ↔ c = d :=
  ⟨fun h => by rw [← ofNat_toNat c, h, ofNat_toNat], congrArg toNat⟩

end CodePoint

/-- A text. -/
structure Text where
  ofList ::
  /-- The code points of the text. -/
  toList : List CodePoint
  deriving DecidableEq, Repr, Inhabited

namespace Text

/-- Characters as code points. -/
def ofChars (chars : List Char) : List CodePoint :=
  chars.map CodePoint.char

instance : Coe (List Char) (List CodePoint) := ⟨ofChars⟩

/-- A string as a text. -/
def ofString (s : String) : Text :=
  ⟨ofChars s.toList⟩

instance : Coe String Text := ⟨ofString⟩

instance : Append Text := ⟨fun first second => ⟨first.toList ++ second.toList⟩⟩

@[simp]
theorem toList_append (first second : Text) :
    (first ++ second).toList = first.toList ++ second.toList := rfl

@[simp]
theorem toList_ofString (s : String) : (ofString s).toList = ofChars s.toList := rfl

@[simp]
theorem ofChars_nil : ofChars [] = [] := rfl

@[simp]
theorem ofChars_cons (c : Char) (chars : List Char) :
    ofChars (c :: chars) = .char c :: ofChars chars := rfl

@[simp]
theorem ofChars_append (first second : List Char) :
    ofChars (first ++ second) = ofChars first ++ ofChars second :=
  List.map_append

@[simp]
theorem length_ofChars (chars : List Char) : (ofChars chars).length = chars.length :=
  List.length_map _

@[simp]
theorem char_mem_ofChars {c : Char} {chars : List Char} :
    .char c ∈ ofChars chars ↔ c ∈ chars := by
  simp [ofChars]

theorem ofChars_inj {chars chars' : List Char} : ofChars chars = ofChars chars' ↔ chars = chars' :=
  List.map_inj_right fun _ _ => CodePoint.char.inj

@[simp]
theorem ofString_inj {s s' : String} : ofString s = ofString s' ↔ s = s' := by
  rw [ofString, ofString, Text.ofList.injEq, ofChars_inj, String.toList_inj]

@[simp]
theorem ofString_append (s s' : String) : ofString (s ++ s') = ofString s ++ ofString s' := by
  rw [ofString, String.toList_append, ofChars_append]
  rfl

/-- Whether a text has no code points. -/
def isEmpty (text : Text) : Bool :=
  text.toList.isEmpty

theorem isEmpty_iff {text : Text} : text.isEmpty = true ↔ text = "" := by
  obtain ⟨points⟩ := text
  rw [isEmpty, List.isEmpty_iff]
  exact ⟨congrArg ofList, congrArg toList⟩

/-- Why a text has no form in UTF-8: the halves at the first place where it holds one. -/
structure Unencodable where
  position : Nat
  count : Nat
  first : Fin 0x800
  deriving DecidableEq, Repr

/-- The characters of code points that stand at a position of a longer text. -/
def charsFrom (position : Nat) : List CodePoint → Except Unencodable (List Char)
  | [] => .ok []
  | .char c :: rest => (charsFrom (position + 1) rest).map (c :: ·)
  | .half offset :: rest =>
      .error ⟨position, 1 + (rest.takeWhile CodePoint.isHalf).length, offset⟩

/-- The string that a text is, if it holds characters only. -/
def asString (text : Text) : Except Unencodable String :=
  (charsFrom 0 text.toList).map String.ofList

/-- Whether a text holds a half. -/
def holdsHalf (text : Text) : Bool :=
  text.toList.any CodePoint.isHalf

/-- A number in hexadecimal, with leading zeros up to a width. -/
def hexDigits (width code : Nat) : List Char :=
  let written := Nat.toDigits 16 code
  List.replicate (width - written.length) '0' ++ written

/-- A text as the error stream shows it, where a half is written as an escape. -/
def escaped (text : Text) : String :=
  String.ofList (text.toList.flatMap fun
    | .char c => [c]
    | .half offset => ['\\', 'u'] ++ hexDigits 4 (CodePoint.half offset).toNat)

/-- The wording for a text that has no form in UTF-8: one half is shown, several are given
by their first and last position. -/
def Unencodable.message (fault : Unencodable) : String :=
  let bad :=
    if fault.count = 1 then
      "character '\\u" ++ String.ofList (hexDigits 4 (CodePoint.half fault.first).toNat)
        ++ s!"' in position {fault.position}"
    else s!"characters in position {fault.position}-{fault.position + fault.count - 1}"
  "'utf-8' codec can't encode " ++ bad ++ ": surrogates not allowed"

theorem charsFrom_ofChars (position : Nat) (chars : List Char) :
    charsFrom position (ofChars chars) = .ok chars := by
  induction chars generalizing position with
  | nil => rfl
  | cons c chars ih => rw [ofChars_cons, charsFrom, ih]; rfl

theorem eq_ofChars_of_charsFrom {position : Nat} {points : List CodePoint} {chars : List Char}
    (h : charsFrom position points = .ok chars) : points = ofChars chars := by
  induction points generalizing position chars with
  | nil => cases h; rfl
  | cons c points ih =>
      cases c with
      | half offset => cases h
      | char c =>
          rw [charsFrom] at h
          cases hrest : charsFrom (position + 1) points with
          | error fault => rw [hrest] at h; cases h
          | ok rest =>
              rw [hrest] at h
              cases h
              rw [ih hrest, ofChars_cons]

@[simp]
theorem asString_ofString (s : String) : (ofString s).asString = .ok s := by
  rw [asString, toList_ofString, charsFrom_ofChars]
  exact congrArg Except.ok String.ofList_toList

/-- A text is the string that it is found to be. -/
theorem asString_eq_ok_iff {text : Text} {s : String} :
    text.asString = .ok s ↔ text = ofString s := by
  constructor
  · intro h
    rw [asString] at h
    cases hchars : charsFrom 0 text.toList with
    | error fault => rw [hchars] at h; cases h
    | ok chars =>
        rw [hchars] at h
        cases h
        have hlist := eq_ofChars_of_charsFrom hchars
        obtain ⟨points⟩ := text
        rw [ofString, String.toList_ofList]
        exact congrArg Text.ofList hlist
  · rintro rfl
    exact asString_ofString s

@[simp]
theorem holdsHalf_ofString (s : String) : (ofString s).holdsHalf = false := by
  simp [holdsHalf, ofChars, CodePoint.isHalf]

theorem charsFrom_eq_error_iff (position : Nat) {points : List CodePoint} :
    (∃ fault, charsFrom position points = .error fault) ↔ points.any CodePoint.isHalf = true := by
  induction points generalizing position with
  | nil => simp [charsFrom]
  | cons c points ih =>
      cases c with
      | half offset => simp [charsFrom, CodePoint.isHalf]
      | char c =>
          rw [charsFrom, List.any_cons, CodePoint.isHalf, Bool.false_or, ← ih (position + 1)]
          cases charsFrom (position + 1) points <;> simp [Except.map]

/-- A text is no string exactly if it holds a half. -/
theorem asString_eq_error_iff {text : Text} :
    (∃ fault, text.asString = .error fault) ↔ text.holdsHalf = true := by
  rw [holdsHalf, ← charsFrom_eq_error_iff 0, asString]
  cases charsFrom 0 text.toList <;> simp [Except.map]

/-- A text is a string exactly if it holds no half. -/
theorem holdsHalf_eq_false_iff {text : Text} :
    text.holdsHalf = false ↔ ∃ s : String, text = ofString s := by
  constructor
  · intro h
    cases hstring : text.asString with
    | ok s => exact ⟨s, asString_eq_ok_iff.mp hstring⟩
    | error fault =>
        rw [asString_eq_error_iff.mp ⟨fault, hstring⟩] at h
        cases h
  · rintro ⟨s, rfl⟩
    exact holdsHalf_ofString s

end Text

end LanguageServer
