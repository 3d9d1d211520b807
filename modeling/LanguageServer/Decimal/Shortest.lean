/-
# Shortest decimals

The decimal that stands for a double precision value has as few digits as a
decimal can have that reads back as that value, and of those it is the nearest
one. `shortest` finds it by trying one digit, then two, and so on: for each
number of digits only the two decimals around the value can be the answer.
Where the decimal point stands and when an exponent is written is the business
of `Style`.
-/

import LanguageServer.Decimal.Binary64

namespace LanguageServer.Decimal

/-- The number `coefficient * 10 ^ exponent`. -/
structure Scientific where
  coefficient : Nat
  exponent : Int
  deriving DecidableEq, Repr

/-- The greatest `p` with `10 ^ p ≤ num / den`, for a positive quotient. -/
def magnitude (num den : Nat) : Int :=
  if den ≤ num then ((digits (num / den)).length : Int) - 1
  else -((digits ((den + num - 1) / num - 1)).length : Int)

/-- A value between the ends of the interval of numbers that are read as it,
all in units of `num / den`. The ends belong to the interval when `closed`. -/
structure Span where
  low : Nat
  mid : Nat
  high : Nat
  closed : Bool
  num : Nat
  den : Nat

/-- The interval around `mantissa * 2 ^ exponent`, in quarters of its last bit.
Below a power of two the values lie twice as dense. -/
def Span.around (mantissa : Nat) (exponent : Int) : Span :=
  let narrow := mantissa = Binary64.leastFull ∧ Binary64.leastExponent < exponent
  let unit := exponent - 2
  { low := 4 * mantissa - (if narrow then 1 else 2)
    mid := 4 * mantissa
    high := 4 * mantissa + 2
    closed := mantissa % 2 = 0
    num := if 0 ≤ unit then Nat.pow 2 unit.toNat else 1
    den := if 0 ≤ unit then 1 else Nat.pow 2 (-unit).toNat }

/-- The multiple of `10 ^ exponent` nearest to the middle of the span, if one
lies in the span; of two that are equally near, the one with an even
coefficient. -/
def Span.onGrid? (span : Span) (exponent : Int) : Option Nat :=
  let num := if 0 ≤ exponent then span.num else span.num * Nat.pow 10 (-exponent).toNat
  let den := if 0 ≤ exponent then span.den * Nat.pow 10 exponent.toNat else span.den
  let inside (c : Nat) : Bool :=
    if span.closed then span.low * num ≤ c * den ∧ c * den ≤ span.high * num
    else span.low * num < c * den ∧ c * den < span.high * num
  let below := span.mid * num / den
  let above := below + 1
  match inside below, inside above with
  | false, false => none
  | true, false => some below
  | false, true => some above
  | true, true =>
      let twice := 2 * (span.mid * num)
      let middle := (below + above) * den
      if twice < middle then some below
      else if middle < twice then some above
      else some (if below % 2 = 0 then below else above)

/-- Moves trailing zeros of the coefficient into the exponent. -/
def Scientific.dropZeros : Nat → Scientific → Scientific
  | 0, x => x
  | fuel + 1, x =>
      if x.coefficient ≠ 0 ∧ x.coefficient % 10 = 0 then
        dropZeros fuel ⟨x.coefficient / 10, x.exponent + 1⟩
      else x

/-- The first hit among grids of `count` digits and more; seventeen digits
always suffice. -/
def Span.search (span : Span) (top : Int) : (tries : Nat) → (count : Nat) → Scientific
  | 0, _ => ⟨0, 0⟩
  | tries + 1, count =>
      let exponent := top - (count : Int) + 1
      match span.onGrid? exponent with
      | some coefficient => (Scientific.mk coefficient exponent).dropZeros 18
      | none => span.search top tries (count + 1)

/-- The shortest decimal that reads back as `mantissa * 2 ^ exponent`, the
nearest one among the shortest. -/
def shortest (mantissa : Nat) (exponent : Int) : Scientific :=
  if mantissa = 0 then ⟨0, 0⟩
  else
    let span := Span.around mantissa exponent
    span.search (magnitude (span.mid * span.num) span.den) 17 1

/-- How the text of a value looks. -/
structure Style where
  /-- The least power of ten of a leading digit that is written positionally. -/
  positionalFrom : Int
  /-- The power of ten of a leading digit from which on an exponent is written. -/
  positionalBelow : Int
  /-- The least number of digits of a written exponent. -/
  exponentDigits : Nat
  /-- The text of a value that is no number. -/
  nan : List Char
  /-- The text of positive infinity. -/
  infinity : List Char

/-- A decimal with a point among its digits or an exponent behind them. A
positional number always shows a digit on both sides of the point. -/
def Style.layout (style : Style) (x : Scientific) : List Char :=
  let ds := digits x.coefficient
  let count : Int := ds.length
  let lead := x.exponent + count - 1
  if x.coefficient = 0 then ['0', '.', '0']
  else if style.positionalFrom ≤ lead ∧ lead < style.positionalBelow then
    let point := lead + 1
    if point ≤ 0 then ['0', '.'] ++ List.replicate (-point).toNat '0' ++ ds
    else if count ≤ point then ds ++ List.replicate (point - count).toNat '0' ++ ['.', '0']
    else ds.take point.toNat ++ '.' :: ds.drop point.toNat
  else
    let power := digits lead.natAbs
    let mantissa := if ds.length = 1 then ds else ds.take 1 ++ '.' :: ds.drop 1
    mantissa ++ ['e', if lead < 0 then '-' else '+']
      ++ List.replicate (style.exponentDigits - power.length) '0' ++ power

/-- The text of a value. A negative zero keeps its sign. -/
def Style.render (style : Style) : Binary64 → List Char
  | .nan => style.nan
  | .infinite negative => if negative then '-' :: style.infinity else style.infinity
  | .finite negative mantissa exponent =>
      let text := style.layout (shortest mantissa exponent)
      if negative then '-' :: text else text

end LanguageServer.Decimal
