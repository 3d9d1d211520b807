/-
# Double precision values

A double precision value is kept as the integers that define it, so that
reading and writing it are exact computations on integers. Reading a decimal
takes the nearest value, the even one of two that are equally near.
-/

import LanguageServer.Decimal.Integer

namespace LanguageServer

/-- A double precision value. A finite one is `mantissa * 2 ^ exponent` with a
sign; its mantissa is below `2 ^ 53`, and it is at least `2 ^ 52` unless the
exponent is the least one. -/
inductive Binary64
  | nan
  | infinite (negative : Bool)
  | finite (negative : Bool) (mantissa : Nat) (exponent : Int)
  deriving DecidableEq, Repr

namespace Binary64

/-- The exponent of the smallest values. -/
def leastExponent : Int := -1074

/-- The exponent of the largest finite values. -/
def greatestExponent : Int := 971

/-- The least mantissa of full length, `2 ^ 52`. -/
def leastFull : Nat := 0x10000000000000

/-- The quotient of two numbers as a ratio after division by `2 ^ exponent`. -/
def scaled (num den : Nat) (exponent : Int) : Nat × Nat :=
  if 0 ≤ exponent then (num, den * Nat.pow 2 exponent.toNat)
  else (num * Nat.pow 2 (-exponent).toNat, den)

/-- The nearest integer to a quotient; a tie goes to the even one. -/
def nearest (num den : Nat) : Nat :=
  let whole := num / den
  let twice := 2 * (num % den)
  if twice < den then whole
  else if den < twice then whole + 1
  else if whole % 2 = 0 then whole
  else whole + 1

/-- The exponent at which a positive quotient has a mantissa of 53 bits, but
not below the least exponent. -/
def fittingExponent (num den : Nat) : Int :=
  let guess : Int := (num.log2 : Int) - den.log2 - 52
  let (n, d) := scaled num den guess
  max leastExponent (if n / d < leastFull then guess - 1 else guess)

/-- The value nearest to a quotient of positive numbers. -/
def ofRatio (negative : Bool) (num den : Nat) : Binary64 :=
  let exponent := fittingExponent num den
  let (n, d) := scaled num den exponent
  let mantissa := nearest n d
  let (mantissa, exponent) :=
    if mantissa = 2 * leastFull then (leastFull, exponent + 1) else (mantissa, exponent)
  if greatestExponent < exponent then .infinite negative else .finite negative mantissa exponent

/-- The value nearest to `digits * 10 ^ exponent`. Decimals that are beyond
every finite value or nearer to zero than to any other value are told by their
size, without computing the power. -/
def ofDecimal (negative : Bool) (digits : Nat) (exponent : Int) : Binary64 :=
  let size := exponent + (Decimal.digits digits).length
  if digits = 0 ∨ size < -330 then .finite negative 0 leastExponent
  else if 310 < size then .infinite negative
  else if 0 ≤ exponent then ofRatio negative (digits * Nat.pow 10 exponent.toNat) 1
  else ofRatio negative digits (Nat.pow 10 (-exponent).toNat)

end Binary64

end LanguageServer
