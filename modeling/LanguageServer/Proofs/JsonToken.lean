/-
# Tokens of printed texts

Each piece of a printed text is read as one token, whatever comes after it. A number
is the only piece whose end has to be seen: it is read up to a character that cannot
belong to a number (`EndsValue`), and in a printed text a comma or a closing bracket
stands there, or the text ends.

An integer with too many digits is printed in full like any other, but it is read as
the token that stands for such a fault (`intToken`).
-/

import LanguageServer.Json.Printer
import LanguageServer.Json.Token
import LanguageServer.Proofs.Numeral
import Mathlib.Data.List.TakeWhile

namespace LanguageServer.Json

theorem hexValue?_digitChar : ∀ d < 16, hexValue? (Nat.digitChar d) = some d := by
  decide

/-- The escape of a control character by its code. -/
theorem escape?_code {c : CodePoint} (h : c.toNat < 0x20) (rest : List CodePoint) :
    escape? (.char 'u' :: .char '0' :: .char '0' :: .char (Nat.digitChar (c.toNat / 16)) ::
      .char (Nat.digitChar (c.toNat % 16)) :: rest) = some (c, 5) := by
  have hcode : hex4? '0' '0' (Nat.digitChar (c.toNat / 16)) (Nat.digitChar (c.toNat % 16)) =
      some c.toNat := by
    have hzero : hexValue? '0' = some 0 := by decide
    simp only [hex4?, hzero, hexValue?_digitChar _ (show c.toNat / 16 < 16 by omega),
      hexValue?_digitChar _ (show c.toNat % 16 < 16 by omega), Option.bind_eq_bind,
      Option.bind_some, Option.pure_def, Option.some.injEq]
    omega
  rw [escape?, hcode]
  simp only [if_neg (show ¬(0xD800 ≤ c.toNat ∧ c.toNat < 0xDC00) by omega),
    CodePoint.ofNat_toNat]

/-- The escape of the first of all halves of surrogate pairs, at the end of a string. -/
@[simp]
theorem escape?_firstHalf (rest : List CodePoint) :
    escape? (.char 'u' :: .char 'd' :: .char '8' :: .char '0' :: .char '0' :: .char '"' :: rest) =
      some (.half 0, 5) := rfl

@[simp]
theorem consChar_some (c : CodePoint) (used : Nat) (chars : List CodePoint) (count : Nat) :
    consChar c used (some (chars, count)) = some (c :: chars, count + used) := rfl

@[simp]
theorem stringBody_quote (rest : List CodePoint) :
    stringBody (.char '"' :: rest) = some ([], 1) := by
  rw [stringBody, if_pos rfl]

@[simp]
theorem stringBody_backslash (rest : List CodePoint) :
    stringBody (.char '\\' :: rest) =
      (escape? rest).bind fun found =>
        consChar found.1 (1 + found.2) (stringBody (rest.drop found.2)) := by
  rw [stringBody, if_neg (by decide), if_pos rfl]
  cases escape? rest <;> rfl

/-- Any other character that may stand in a string stands for itself. -/
@[simp]
theorem stringBody_plain {c : CodePoint} (hquote : c ≠ '"') (hbackslash : c ≠ '\\')
    (hcontrol : ¬c.toNat < 0x20) (rest : List CodePoint) :
    stringBody (c :: rest) = consChar c 1 (stringBody rest) := by
  rw [stringBody, if_neg hquote, if_neg hbackslash, if_neg hcontrol]

/-- Reading an escape takes the characters that it consists of. -/
theorem stringBody_escape (text : List CodePoint) {c : CodePoint} {used : Nat}
    {rest : List CodePoint} (hescape : escape? (text ++ rest) = some (c, used))
    (hused : text.length = used) :
    stringBody (.char '\\' :: (text ++ rest)) = consChar c (1 + used) (stringBody rest) := by
  rw [stringBody_backslash, hescape, Option.bind_some]
  simp only [← hused, List.drop_left]

/-- A character of a string is read back from what is printed for it. -/
theorem stringBody_escapeChar (c : CodePoint) (rest : List CodePoint) :
    stringBody (escapeChar c ++ rest) = consChar c (escapeChar c).length (stringBody rest) := by
  rw [escapeChar]
  split
  · next h => subst h; exact stringBody_escape ['"'] rfl rfl
  split
  · next h => subst h; exact stringBody_escape ['\\'] rfl rfl
  split
  · next h => subst h; exact stringBody_escape ['n'] rfl rfl
  split
  · next h => subst h; exact stringBody_escape ['r'] rfl rfl
  split
  · next h => subst h; exact stringBody_escape ['t'] rfl rfl
  split
  · next h => subst h; exact stringBody_escape ['b'] rfl rfl
  split
  · next h => subst h; exact stringBody_escape ['f'] rfl rfl
  split
  · next h =>
      exact stringBody_escape ['u', '0', '0', _, _] (escape?_code h rest) rfl
  · next hquote hbackslash _ _ _ _ _ hcontrol =>
      rw [List.singleton_append, stringBody_plain hquote hbackslash hcontrol]
      rfl

theorem stringBody_flatMap_escapeChar (chars rest : List CodePoint) :
    stringBody (chars.flatMap escapeChar ++ .char '"' :: rest) =
      some (chars, (chars.flatMap escapeChar).length + 1) := by
  induction chars with
  | nil => rw [List.flatMap_nil, List.nil_append, stringBody_quote]; rfl
  | cons c chars ih =>
      rw [List.flatMap_cons, List.append_assoc, stringBody_escapeChar, ih, List.length_append,
        consChar_some]
      simp only [Option.some.injEq, Prod.mk.injEq, true_and]
      omega

@[simp]
theorem tokens_nil : tokens [] = [] := by
  rw [tokens]

theorem tokens_cons {c : CodePoint} (h : isSeparator c = false) (rest : List CodePoint) :
    tokens (c :: rest) = (nextToken c rest).1 :: tokens (rest.drop (nextToken c rest).2) := by
  rw [tokens, h]
  rfl

@[simp]
theorem tokens_space (rest : List CodePoint) : tokens (.char ' ' :: rest) = tokens rest := by
  rw [tokens]
  rfl

/-- A mark is one character long. -/
theorem tokens_mark {c : CodePoint} {token : Token} (hseparator : isSeparator c = false)
    {rest : List CodePoint} (hmark : nextToken c rest = (token, 0)) :
    tokens (c :: rest) = token :: tokens rest := by
  rw [tokens_cons hseparator, hmark, List.drop_zero]

@[simp]
theorem tokens_openArray (rest : List CodePoint) :
    tokens (.char '[' :: rest) = .openArray :: tokens rest :=
  tokens_mark rfl rfl

@[simp]
theorem tokens_closeArray (rest : List CodePoint) :
    tokens (.char ']' :: rest) = .closeArray :: tokens rest :=
  tokens_mark rfl rfl

@[simp]
theorem tokens_openObject (rest : List CodePoint) :
    tokens (.char '\x7b' :: rest) = .openObject :: tokens rest :=
  tokens_mark rfl rfl

@[simp]
theorem tokens_closeObject (rest : List CodePoint) :
    tokens (.char '\x7d' :: rest) = .closeObject :: tokens rest :=
  tokens_mark rfl rfl

@[simp]
theorem tokens_comma (rest : List CodePoint) : tokens (.char ',' :: rest) = .comma :: tokens rest :=
  tokens_mark rfl rfl

@[simp]
theorem tokens_colon (rest : List CodePoint) : tokens (.char ':' :: rest) = .colon :: tokens rest :=
  tokens_mark rfl rfl

/-- A string is one token, if it ends. -/
@[simp]
theorem tokens_quote (rest : List CodePoint) :
    tokens (.char '"' :: rest) =
      match stringBody rest with
      | some (chars, used) => .text (Text.ofList chars) :: tokens (rest.drop used)
      | none => [.junk] := by
  have hnext : nextToken '"' rest =
      match stringBody rest with
      | some (chars, used) => (.text (Text.ofList chars), used)
      | none => (.junk, rest.length) := rfl
  rw [tokens_cons rfl, hnext]
  cases stringBody rest with
  | none => rw [List.drop_length, tokens_nil]
  | some => rfl

/-- A string is one token, whatever it contains. -/
theorem tokens_quoted (s : Text) (rest : List CodePoint) :
    tokens (quoted s ++ rest) = .text s :: tokens rest := by
  have hdrop : (s.toList.flatMap escapeChar ++ .char '"' :: rest).drop
      ((s.toList.flatMap escapeChar).length + 1) = rest := by
    rw [← List.drop_drop, List.drop_left, List.drop_one, List.tail_cons]
  rw [quoted, List.cons_append, List.append_assoc, List.singleton_append, tokens_quote,
    stringBody_flatMap_escapeChar]
  simp only [hdrop]

/-- The characters that are tokens of their own or start a string. -/
def isMark (c : CodePoint) : Bool :=
  c = '[' || c = ']' || c = '\x7b' || c = '\x7d' || c = ',' || c = ':' || c = '"'

/-- A word or a number is one token. -/
theorem tokens_scalar {c : CodePoint} (word : List CodePoint) {rest : List CodePoint}
    {token : Token} (hseparator : isSeparator c = false) (hmark : isMark c = false)
    (hscalar : scalarToken? (c :: (word ++ rest)) = some (token, word.length + 1)) :
    tokens (c :: (word ++ rest)) = token :: tokens rest := by
  simp only [isMark, Bool.or_eq_false_iff, decide_eq_false_iff_not] at hmark
  obtain ⟨⟨⟨⟨⟨⟨h₁, h₂⟩, h₃⟩, h₄⟩, h₅⟩, h₆⟩, h₇⟩ := hmark
  have hnext : nextToken c (word ++ rest) = (token, word.length) := by
    rw [nextToken, if_neg h₁, if_neg h₂, if_neg h₃, if_neg h₄, if_neg h₅, if_neg h₆, if_neg h₇,
      hscalar]
    rfl
  rw [tokens_cons hseparator, hnext, List.drop_left]

theorem tokens_null (rest : List CodePoint) :
    tokens (chars .null ++ rest) = .scalar .null :: tokens rest :=
  tokens_scalar ['u', 'l', 'l'] rfl rfl rfl

theorem tokens_bool (b : Bool) (rest : List CodePoint) :
    tokens (chars (.bool b) ++ rest) = .scalar (.bool b) :: tokens rest := by
  cases b with
  | false => exact tokens_scalar ['a', 'l', 's', 'e'] rfl rfl rfl
  | true => exact tokens_scalar ['r', 'u', 'e'] rfl rfl rfl

/-- Only the closing bracket itself ends an array. -/
theorem nextToken_ne_closeArray {c : CodePoint} (h : c ≠ ']') (rest : List CodePoint) :
    (nextToken c rest).1 ≠ .closeArray := by
  have hscalar {text : List CodePoint} {token : Token} {length : Nat}
      (hfound : scalarToken? text = some (token, length)) : token ≠ .closeArray := by
    rw [scalarToken?] at hfound
    split at hfound
    · cases hfound
      exact Token.noConfusion
    · obtain ⟨number, -, hnumber⟩ := Option.map_eq_some_iff.mp hfound
      cases hnumber
      rw [NumberText.token]
      split
      · cases Decimal.read number.whole <;> exact Token.noConfusion
      · exact Token.noConfusion
  rw [nextToken]
  iterate 5
    split
    · exact Token.noConfusion
  split
  · split <;> exact Token.noConfusion
  · split
    · next hfound => exact hscalar hfound
    · exact Token.noConfusion

/-- What may stand after a printed value: a comma, the end of an array or an object, or
nothing at all. -/
def EndsValue (rest : List CodePoint) : Prop :=
  ∀ c ∈ rest.head?, c = ',' ∨ c = ']' ∨ c = '\x7d'

theorem endsValue_nil : EndsValue [] := by
  intro c hc
  cases hc

theorem endsValue_cons {c : CodePoint} (h : c = ',' ∨ c = ']' ∨ c = '\x7d')
    (rest : List CodePoint) : EndsValue (c :: rest) := by
  intro c' hc
  cases hc
  exact h

/-- The digits at the start of a text end where the number does. -/
theorem leadingDigits_append {digits : List Char} (hdigits : ∀ c ∈ digits, c.isDigit)
    {rest : List CodePoint} (h : EndsValue rest) :
    leadingDigits (Text.ofChars digits ++ rest) = digits := by
  induction digits with
  | nil =>
      cases rest with
      | nil => rfl
      | cons c rest => rcases h c rfl with rfl | rfl | rfl <;> rfl
  | cons c digits ih =>
      rw [Text.ofChars_cons, List.cons_append, leadingDigits,
        if_pos (hdigits c List.mem_cons_self),
        ih fun other hother => hdigits other (List.mem_cons_of_mem _ hother)]

theorem head?_digits_append (n : Nat) (rest : List CodePoint) :
    (Text.ofChars (Decimal.digits n) ++ rest).head? = (Decimal.digits n).head?.map .char := by
  have hne : Text.ofChars (Decimal.digits n) ≠ [] := mt List.map_eq_nil_iff.mp Nat.toDigits_ne_nil
  rw [List.head?_append_of_ne_nil _ hne, Text.ofChars, List.head?_map]

/-- The whole part of a printed number is all of its digits, also where a leading zero
stands alone. -/
theorem whole_digits {rest : List CodePoint} (h : EndsValue rest) (n : Nat) :
    (if (Text.ofChars (Decimal.digits n) ++ rest).head? = some (.char '0') then ['0']
      else leadingDigits (Text.ofChars (Decimal.digits n) ++ rest)) = Decimal.digits n := by
  rw [leadingDigits_append (fun c => Decimal.isDigit_of_mem_digits) h, head?_digits_append]
  split
  · next hzero =>
      obtain ⟨c, hhead, hc⟩ := Option.map_eq_some_iff.mp hzero
      cases hc
      exact (Decimal.digits_eq_of_head? hhead).symm
  · rfl

/-- The number that is written as an integer. -/
def integerText (n : Int) : NumberText where
  negative := n < 0
  whole := Decimal.digits n.natAbs
  fraction := []
  exponent := none
  used := (Decimal.ofInt n).length

theorem fractionText_of_endsValue {rest : List CodePoint} (h : EndsValue rest) :
    fractionText rest = [] := by
  cases rest with
  | nil => rfl
  | cons c rest => rcases h c rfl with rfl | rfl | rfl <;> rfl

theorem exponentText?_of_endsValue {rest : List CodePoint} (h : EndsValue rest) :
    exponentText? rest = none := by
  cases rest with
  | nil => rfl
  | cons c rest => rcases h c rfl with rfl | rfl | rfl <;> rfl

theorem head?_digits_ne (n : Nat) (rest : List CodePoint) :
    (Text.ofChars (Decimal.digits n) ++ rest).head? ≠ some (.char '-') := by
  rw [head?_digits_append]
  intro hhead
  obtain ⟨c, hmem, hc⟩ := Option.map_eq_some_iff.mp hhead
  cases hc
  cases Decimal.isDigit_of_mem_digits (List.mem_of_mem_head? hmem)

/-- An integer that was printed is found in full at the start of a text. -/
theorem numberText?_ofInt {rest : List CodePoint} (h : EndsValue rest) (n : Int) :
    numberText? (Text.ofChars (Decimal.ofInt n) ++ rest) = some (integerText n) := by
  have hne (m : Nat) : (Decimal.digits m).isEmpty = false :=
    List.isEmpty_eq_false_iff.mpr Nat.toDigits_ne_nil
  have hdrop (m : Nat) :
      (Text.ofChars (Decimal.digits m) ++ rest).drop (Decimal.digits m).length = rest := by
    rw [← Text.length_ofChars, List.drop_left]
  cases n with
  | ofNat m =>
      simp only [Decimal.ofInt, numberText?, head?_digits_ne, decide_false, Bool.false_eq_true,
        if_false, List.drop_zero, whole_digits h, hne, hdrop, fractionText_of_endsValue h,
        List.isEmpty_nil, if_true, exponentText?_of_endsValue h]
      simp [integerText, Decimal.ofInt]
  | negSucc m =>
      simp only [Decimal.ofInt, numberText?, Text.ofChars_cons, List.cons_append, List.head?_cons,
        decide_true, if_true, List.drop_one, List.tail_cons, whole_digits h, hne,
        Bool.false_eq_true, if_false, hdrop, fractionText_of_endsValue h, List.isEmpty_nil,
        List.drop_zero, exponentText?_of_endsValue h]
      simp [integerText, Decimal.ofInt, Nat.add_comm]

/-- The token that a printed integer is read as. -/
def intToken (n : Int) : Token :=
  if Decimal.digitLimit < (Decimal.digits n.natAbs).length then
    .oversized ⟨(Decimal.digits n.natAbs).length⟩
  else .scalar (.int n)

theorem token_integerText (n : Int) : (integerText n).token = intToken n := by
  have hkind : ((integerText n).fraction.isEmpty && (integerText n).exponent.isNone) = true := rfl
  rw [NumberText.token, if_pos hkind, intToken]
  by_cases hlong : Decimal.digitLimit < (Decimal.digits n.natAbs).length
  · rw [if_pos hlong, integerText, Decimal.read, if_pos hlong]
  · rw [if_neg hlong, integerText, Decimal.read_digits (Nat.not_lt.mp hlong)]
    have hsign : (if decide (n < 0) = true then -(n.natAbs : Int) else n.natAbs) = n := by
      by_cases hneg : n < 0
      · rw [if_pos (decide_eq_true hneg)]
        omega
      · rw [if_neg (mt of_decide_eq_true hneg)]
        omega
    simp only [hsign]

/-- No keyword has a digit among its first two characters, so none is found where a
number stands. -/
theorem find?_keywords {text : List CodePoint} {i : Nat} {c : Char} (hi : i < 2)
    (hc : text[i]? = some (.char c)) (hdigit : c.isDigit = true) :
    (keywords.find? fun entry => (Text.ofString entry.1).toList.isPrefixOf text) = none := by
  have hkeywords : (keywords.all fun entry => (List.range 2).all fun i =>
      entry.1.toList[i]?.any fun a => !a.isDigit) = true := by decide
  rw [List.find?_eq_none]
  intro entry hentry hprefix
  obtain ⟨after, rfl⟩ := List.isPrefixOf_iff_prefix.mp hprefix
  have hword := List.all_eq_true.mp (List.all_eq_true.mp hkeywords entry hentry) i
    (List.mem_range.mpr hi)
  cases hfound : entry.1.toList[i]? with
  | none =>
      rw [hfound] at hword
      cases hword
  | some a =>
      have hpoint : (Text.ofString entry.1).toList[i]? = some (.char a) := by
        rw [Text.toList_ofString, Text.ofChars, List.getElem?_map, hfound, Option.map_some]
      rw [List.getElem?_append_left (List.getElem?_eq_some_iff.mp hpoint).1, hpoint] at hc
      cases hc
      rw [hfound, Option.any_some, hdigit] at hword
      cases hword

theorem head?_digits (n : Nat) : ∃ c word, Decimal.digits n = c :: word ∧ c.isDigit = true := by
  obtain ⟨c, word, hdigits⟩ := List.exists_cons_of_ne_nil
    (show Decimal.digits n ≠ [] from Nat.toDigits_ne_nil)
  exact ⟨c, word, hdigits, Decimal.isDigit_of_mem_digits (hdigits ▸ List.mem_cons_self)⟩

theorem scalarToken?_ofInt {rest : List CodePoint} (h : EndsValue rest) (n : Int) :
    scalarToken? (Text.ofChars (Decimal.ofInt n) ++ rest) =
      some (intToken n, (Decimal.ofInt n).length) := by
  have hkeywords : (keywords.find? fun entry => (Text.ofString entry.1).toList.isPrefixOf
      (Text.ofChars (Decimal.ofInt n) ++ rest)) = none := by
    cases n with
    | ofNat m =>
        obtain ⟨c, word, hdigits, hdigit⟩ := head?_digits m
        rw [Decimal.ofInt, hdigits]
        exact find?_keywords (show 0 < 2 by decide) rfl hdigit
    | negSucc m =>
        obtain ⟨c, word, hdigits, hdigit⟩ := head?_digits (m + 1)
        rw [Decimal.ofInt, hdigits]
        exact find?_keywords (show 1 < 2 by decide) rfl hdigit
  rw [scalarToken?, hkeywords]
  simp only [numberText?_ofInt h, Option.map_some, token_integerText]
  rfl

theorem isMark_of_isDigit {c : Char} (h : c.isDigit = true) :
    isSeparator c = false ∧ isMark c = false := by
  constructor
  · rw [Bool.eq_false_iff]
    intro hseparator
    simp only [isSeparator, Bool.or_eq_true, decide_eq_true_eq, CodePoint.char.injEq] at hseparator
    rcases hseparator with ((rfl | rfl) | rfl) | rfl <;> cases h
  · rw [Bool.eq_false_iff]
    intro hmark
    simp only [isMark, Bool.or_eq_true, decide_eq_true_eq, CodePoint.char.injEq] at hmark
    rcases hmark with (((((rfl | rfl) | rfl) | rfl) | rfl) | rfl) | rfl <;> cases h

/-- A printed integer starts with a digit or a sign. -/
theorem exists_ofInt (n : Int) :
    ∃ c word, Decimal.ofInt n = c :: word ∧ isSeparator (.char c) = false ∧
      isMark (.char c) = false := by
  cases n with
  | ofNat m =>
      obtain ⟨c, word, hdigits, hdigit⟩ := head?_digits m
      exact ⟨c, word, hdigits, isMark_of_isDigit hdigit⟩
  | negSucc m => exact ⟨'-', Decimal.digits (m + 1), rfl, rfl, rfl⟩

/-- An integer is one token. -/
theorem tokens_int {rest : List CodePoint} (h : EndsValue rest) (n : Int) :
    tokens (chars (.int n) ++ rest) = intToken n :: tokens rest := by
  obtain ⟨c, word, hint, hseparator, hmark⟩ := exists_ofInt n
  have hscalar := scalarToken?_ofInt h n
  rw [hint, List.length_cons, ← Text.length_ofChars word] at hscalar
  rw [chars, hint]
  exact tokens_scalar (Text.ofChars word) hseparator hmark hscalar

end LanguageServer.Json
