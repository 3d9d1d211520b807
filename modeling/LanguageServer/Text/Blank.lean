/-
# Blanks

The characters that trimming removes: the white space of the standard and the
four information separators U+001C to U+001F.
-/

import LanguageServer.Text.CharTable
import LanguageServer.Text.CodePoint

namespace LanguageServer.Text

/-- White space and the information separators. -/
def blanks : CharTable := [
  (0x9, 0xD), (0x1C, 0x20), (0x85, 0x85), (0xA0, 0xA0), (0x1680, 0x1680), (0x2000, 0x200A),
  (0x2028, 0x2029), (0x202F, 0x202F), (0x205F, 0x205F), (0x3000, 0x3000)]

/-- A character that separates words and is trimmed at the ends of a text. -/
def isBlank (c : CodePoint) : Bool :=
  blanks.contains c.toNat

/-- The text without the trailing characters of a class. -/
def dropEndWhile {α : Type} (p : α → Bool) (text : List α) : List α :=
  (text.reverse.dropWhile p).reverse

/-- The text without the characters of a class at both ends. -/
def trimWhile {α : Type} (p : α → Bool) (text : List α) : List α :=
  dropEndWhile p (text.dropWhile p)

/-- The text without its leading blanks. -/
def trimStart (text : List CodePoint) : List CodePoint :=
  text.dropWhile isBlank

/-- The text without its trailing blanks. -/
def trimEnd (text : List CodePoint) : List CodePoint :=
  dropEndWhile isBlank text

/-- The text without the blanks at both ends. -/
def trim (text : List CodePoint) : List CodePoint :=
  trimWhile isBlank text

end LanguageServer.Text
