/-
# Printing JSON

One text per value: a comma or colon is followed by a blank, characters outside
ASCII stand for themselves, and a string escapes only its quotes, backslashes
and control characters. `Json.Reader` reads these texts back.

Printing can fail (`printFault?`): it works on nested containers only as far as there is
room for calls within calls, and an integer is printed only up to a limit on its number of
digits. The text is produced in order, so the first such thing in a value is the one that
counts.
-/

import LanguageServer.Decimal.Shortest
import LanguageServer.Json.Basic

namespace LanguageServer.Json

/-- Numbers in JSON are positional from `0.0001` up to below `10 ^ 16`, with at
least two digits in an exponent. -/
def numberStyle : Decimal.Style where
  positionalFrom := -4
  positionalBelow := 16
  exponentDigits := 2
  nan := ['N', 'a', 'N']
  infinity := ['I', 'n', 'f', 'i', 'n', 'i', 't', 'y']

/-- One character inside a string. -/
def escapeChar (c : CodePoint) : List CodePoint :=
  if c = '"' then ['\\', '"']
  else if c = '\\' then ['\\', '\\']
  else if c = '\n' then ['\\', 'n']
  else if c = '\r' then ['\\', 'r']
  else if c = '\t' then ['\\', 't']
  else if c = '\x08' then ['\\', 'b']
  else if c = '\x0c' then ['\\', 'f']
  else if c.toNat < 0x20 then
    ['\\', 'u', '0', '0', Nat.digitChar (c.toNat / 16), Nat.digitChar (c.toNat % 16)]
  else [c]

/-- A string between its quotes. -/
def quoted (s : Text) : List CodePoint :=
  '"' :: (s.toList.flatMap escapeChar ++ [.char '"'])

mutual

/-- The code points of a value. -/
def chars : Json → List CodePoint
  | .null => ['n', 'u', 'l', 'l']
  | .bool true => ['t', 'r', 'u', 'e']
  | .bool false => ['f', 'a', 'l', 's', 'e']
  | .int n => Text.ofChars (Decimal.ofInt n)
  | .float x => Text.ofChars (numberStyle.render x)
  | .str s => quoted s
  | .arr [] => ['[', ']']
  | .arr (item :: rest) => '[' :: (item.chars ++ itemChars rest)
  | .obj [] => ['\x7b', '\x7d']
  | .obj ((key, value) :: rest) =>
      '\x7b' :: (quoted key ++ [.char ':', .char ' '] ++ value.chars ++ fieldChars rest)

/-- The items after the first one, and the end of the array. -/
def itemChars : List Json → List CodePoint
  | [] => [']']
  | item :: rest => [.char ',', .char ' '] ++ item.chars ++ itemChars rest

/-- The fields after the first one, and the end of the object. -/
def fieldChars : List (Text × Json) → List CodePoint
  | [] => ['\x7d']
  | (key, value) :: rest =>
      [.char ',', .char ' '] ++ quoted key ++ [.char ':', .char ' '] ++ value.chars
        ++ fieldChars rest

end

/-- The text of a value. -/
def render (value : Json) : Text :=
  ⟨value.chars⟩

/-- Why a value cannot be printed: it is nested too deeply, or it holds an integer with too
many digits. -/
inductive PrintFault
  | tooDeep
  | tooLong
  deriving DecidableEq, Repr

/-- The wording of a fault. -/
def PrintFault.message : PrintFault → String
  | .tooDeep => "maximum recursion depth exceeded while encoding a JSON object"
  | .tooLong =>
      s!"Exceeds the limit ({Decimal.digitLimit} digits) for integer string conversion; "
        ++ "use sys.set_int_max_str_digits() to increase the limit"

mutual

/-- The first thing in a value that keeps it from being printed, where a number of
containers may still be nested. -/
def printFault? (room : Nat) : Json → Option PrintFault
  | .int n => if Decimal.digitLimit < (Decimal.digits n.natAbs).length then some .tooLong else none
  | .arr items => if room = 0 then some .tooDeep else itemsFault? (room - 1) items
  | .obj fields => if room = 0 then some .tooDeep else fieldsFault? (room - 1) fields
  | _ => none

/-- The first such thing among the items of an array. -/
def itemsFault? (room : Nat) : List Json → Option PrintFault
  | [] => none
  | item :: rest => (item.printFault? room).or (itemsFault? room rest)

/-- The first such thing among the values of an object. -/
def fieldsFault? (room : Nat) : List (Text × Json) → Option PrintFault
  | [] => none
  | (_, value) :: rest => (value.printFault? room).or (fieldsFault? room rest)

end

end LanguageServer.Json
