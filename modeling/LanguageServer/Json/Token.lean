/-
# JSON tokens

The first half of reading: a text falls into punctuation, scalars and strings,
with blanks between them. A character with which no token can start ends the
sequence with the token `junk`, and an integer with too many digits becomes a
token of its own, so that whoever reads the tokens in order meets the faults of
the text in order.
-/

import LanguageServer.Json.Basic
import LanguageServer.Text.Numeral

namespace LanguageServer.Json

/-- A token of a JSON text. -/
inductive Token
  | openArray
  | closeArray
  | openObject
  | closeObject
  | comma
  | colon
  | scalar (value : Json)
  | text (s : Text)
  | oversized (fault : Decimal.Oversized)
  | junk
  deriving Repr

/-- The blanks that may stand between tokens. -/
def isSeparator (c : CodePoint) : Bool :=
  c = ' ' || c = '\t' || c = '\n' || c = '\r'

/-- The value of a hexadecimal digit in either case. -/
def hexValue? (c : CodePoint) : Option Nat :=
  if '0' ≤ c ∧ c ≤ '9' then some (c.toNat - '0'.toNat)
  else if 'a' ≤ c ∧ c ≤ 'f' then some (c.toNat - 'a'.toNat + 10)
  else if 'A' ≤ c ∧ c ≤ 'F' then some (c.toNat - 'A'.toNat + 10)
  else none

/-- The number that four hexadecimal digits denote. -/
def hex4? (a b c d : CodePoint) : Option Nat := do
  let a ← hexValue? a
  let b ← hexValue? b
  let c ← hexValue? c
  let d ← hexValue? d
  return ((a * 16 + b) * 16 + c) * 16 + d

/-- The character that a backslash and one letter stand for. -/
def shortEscape? (c : CodePoint) : Option CodePoint :=
  if c = '"' ∨ c = '\\' ∨ c = '/' then some c
  else if c = 'n' then some '\n'
  else if c = 'r' then some '\r'
  else if c = 't' then some '\t'
  else if c = 'b' then some '\x08'
  else if c = 'f' then some '\x0c'
  else none

/-- The code point of a surrogate pair. -/
def joinSurrogates (high low : Nat) : Nat :=
  0x10000 + (high - 0xD800) * 0x400 + (low - 0xDC00)

/-- The low half that an escape right at the start of a text gives. -/
def lowHalf? : List CodePoint → Option Nat
  | .char '\\' :: .char 'u' :: a :: b :: c :: d :: _ =>
      (hex4? a b c d).filter fun code => 0xDC00 ≤ code ∧ code < 0xE000
  | _ => none

/-- A character in front of what was read after it. `used` is the number of
characters of the text that stand for it. -/
def consChar (c : CodePoint) (used : Nat) (later : Option (List CodePoint × Nat)) :
    Option (List CodePoint × Nat) :=
  later.map fun (chars, count) => (c :: chars, count + used)

/-- The code point that stands after a backslash, and how many characters of the text it
takes. Two escapes may give the halves of a surrogate pair; a half without the other one
stands for itself. -/
def escape? : List CodePoint → Option (CodePoint × Nat)
  | [] => none
  | .char 'u' :: a :: b :: c :: d :: rest =>
      match hex4? a b c d with
      | none => none
      | some code =>
          if 0xD800 ≤ code ∧ code < 0xDC00 then
            match lowHalf? rest with
            | some low => some (Char.ofNat (joinSurrogates code low), 11)
            | none => some (.ofNat code, 5)
          else some (.ofNat code, 5)
  | letter :: _ => (shortEscape? letter).map fun ch => (ch, 1)

/-- The characters of a string up to its closing quote, and how many
characters of the text they and the quote take. Control characters may not
stand in a string. -/
def stringBody : List CodePoint → Option (List CodePoint × Nat)
  | [] => none
  | c :: rest =>
      if c = '"' then some ([], 1)
      else if c = '\\' then
        match escape? rest with
        | none => none
        | some (ch, used) => consChar ch (1 + used) (stringBody (rest.drop used))
      else if c.toNat < 0x20 then none
      else consChar c 1 (stringBody rest)
  termination_by text => text.length
  decreasing_by
    · simp only [List.length_cons, List.length_drop]; omega
    · simp

/-- The decimal digits at the start of a text. -/
def leadingDigits : List CodePoint → List Char
  | .char c :: rest => if c.isDigit then c :: leadingDigits rest else []
  | _ => []

/-- A number as it is written: the digits before and after the point and the
exponent, with `used` characters in all. -/
structure NumberText where
  negative : Bool
  whole : List Char
  fraction : List Char
  exponent : Option (Bool × List Char)
  used : Nat

/-- The exponent at the start of a text: whether it is negative, its digits, and
its length. -/
def exponentText? : List CodePoint → Option (Bool × List Char × Nat)
  | [] => none
  | mark :: rest =>
      if mark = 'e' ∨ mark = 'E' then
        let (negative, signed, rest) :=
          match rest with
          | .char '-' :: rest => (true, 1, rest)
          | .char '+' :: rest => (false, 1, rest)
          | rest => (false, 0, rest)
        let ds := leadingDigits rest
        if ds.isEmpty then none else some (negative, ds, 1 + signed + ds.length)
      else none

/-- The digits after a decimal point, or nothing when there is no such point or
no digit after it. -/
def fractionText : List CodePoint → List Char
  | .char '.' :: rest => leadingDigits rest
  | _ => []

/-- The longest number at the start of a text. A leading zero stands alone. -/
def numberText? (text : List CodePoint) : Option NumberText :=
  let negative := text.head? = some (.char '-')
  let signed := if negative then 1 else 0
  let body := text.drop signed
  let whole := if body.head? = some (.char '0') then ['0'] else leadingDigits body
  if whole.isEmpty then none
  else
    let afterWhole := body.drop whole.length
    let fraction := fractionText afterWhole
    let pointed := if fraction.isEmpty then 0 else 1 + fraction.length
    let used := signed + whole.length + pointed
    match exponentText? (afterWhole.drop pointed) with
    | none => some ⟨negative, whole, fraction, none, used⟩
    | some (down, ds, count) => some ⟨negative, whole, fraction, some (down, ds), used + count⟩

/-- The number with a point or an exponent. -/
def NumberText.toBinary64 (number : NumberText) : Binary64 :=
  let power : Int :=
    match number.exponent with
    | none => 0
    | some (true, ds) => -(Decimal.value ds : Int)
    | some (false, ds) => Decimal.value ds
  Binary64.ofDecimal number.negative (Decimal.value (number.whole ++ number.fraction))
    (power - number.fraction.length)

/-- The token of a number: an integer unless it has a point or an exponent. -/
def NumberText.token (number : NumberText) : Token :=
  if number.fraction.isEmpty && number.exponent.isNone then
    match Decimal.read number.whole with
    | .error fault => .oversized fault
    | .ok n => .scalar (.int (if number.negative then -(n : Int) else n))
  else .scalar (.float number.toBinary64)

/-- The words that stand for values. -/
def keywords : List (String × Json) := [
  ("null", .null),
  ("true", .bool true),
  ("false", .bool false),
  ("NaN", .float .nan),
  ("Infinity", .float (.infinite false)),
  ("-Infinity", .float (.infinite true))]

/-- The token of a word or a number at the start of a text, with its length. -/
def scalarToken? (text : List CodePoint) : Option (Token × Nat) :=
  match keywords.find? fun entry => (Text.ofString entry.1).toList.isPrefixOf text with
  | some (word, value) => some (.scalar value, word.length)
  | none => (numberText? text).map fun number => (number.token, number.used)

/-- The token at the start of a text that is not blank there, and how many
characters after the first one belong to it. Junk takes all that is left. -/
def nextToken (c : CodePoint) (rest : List CodePoint) : Token × Nat :=
  if c = '[' then (.openArray, 0)
  else if c = ']' then (.closeArray, 0)
  else if c = '\x7b' then (.openObject, 0)
  else if c = '\x7d' then (.closeObject, 0)
  else if c = ',' then (.comma, 0)
  else if c = ':' then (.colon, 0)
  else if c = '"' then
    match stringBody rest with
    | some (chars, used) => (.text (Text.ofList chars), used)
    | none => (.junk, rest.length)
  else
    match scalarToken? (c :: rest) with
    | some (token, length) => (token, length - 1)
    | none => (.junk, rest.length)

/-- The tokens of a text. -/
def tokens : List CodePoint → List Token
  | [] => []
  | c :: rest =>
      if isSeparator c then tokens rest
      else
        let (token, used) := nextToken c rest
        token :: tokens (rest.drop used)
  termination_by text => text.length
  decreasing_by
    · simp
    · simp only [List.length_cons, List.length_drop]; omega

end LanguageServer.Json
