/-
# Character tables

A class of characters is a list of code point ranges. The classes themselves
(`Letter`, `Numeral`, `Blank`, `Case`, `Printable`) are data of the Unicode
standard, version 14.0; this module only says how a table is searched.
-/

namespace LanguageServer.Text

/-- Code point ranges, both ends included, in increasing order and apart. -/
abbrev CharTable := List (Nat × Nat)

namespace CharTable

/-- Whether a code point lies in a range. The order of the ranges lets the
search stop at the first one that does not end before the code point. -/
def contains : CharTable → Nat → Bool
  | [], _ => false
  | (first, last) :: rest, code =>
      if code ≤ last then decide (first ≤ code) else contains rest code

end CharTable

end LanguageServer.Text
