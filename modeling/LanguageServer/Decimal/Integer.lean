/-
# Integers in decimal

Writing and reading integers in base ten. Integers are written in full whatever
their size; a numeral is read only up to a limit on its number of digits, so
that a peer cannot make reading arbitrarily slow.
-/

namespace LanguageServer.Decimal

/-- The decimal digits of a natural number, most significant first. -/
def digits (n : Nat) : List Char :=
  Nat.toDigits 10 n

/-- An integer in decimal, with a sign when it is negative. -/
def ofInt : Int → List Char
  | .ofNat n => digits n
  | .negSucc n => '-' :: digits (n + 1)

/-- The value of one decimal digit. -/
def digitValue (c : Char) : Nat :=
  c.toNat - '0'.toNat

/-- The number that decimal digits denote; leading zeros do not matter. -/
def value (numeral : List Char) : Nat :=
  numeral.foldl (fun n c => n * 10 + digitValue c) 0

/-- The greatest number of digits of a numeral that is read. -/
def digitLimit : Nat := 4300

/-- A numeral with more digits than the limit allows. -/
structure Oversized where
  digits : Nat
  deriving DecidableEq, Repr

/-- The wording for a numeral that is too long. -/
def Oversized.message (fault : Oversized) : String :=
  s!"Exceeds the limit ({digitLimit} digits) for integer string conversion: "
    ++ s!"value has {fault.digits} digits; "
    ++ "use sys.set_int_max_str_digits() to increase the limit"

/-- Reads a numeral; leading zeros count towards the limit. -/
def read (numeral : List Char) : Except Oversized Nat :=
  if digitLimit < numeral.length then .error ⟨numeral.length⟩ else .ok (value numeral)

end LanguageServer.Decimal
