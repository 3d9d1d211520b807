/-
# Quoted text

A text between quotes, as messages show a file name or a word of the command
line. Single quotes are used unless the text holds one and no double quote.
-/

import LanguageServer.Text.Printable

namespace LanguageServer.Text

/-- One character inside quotes of a given kind. -/
def quoteChar (mark : Char) (c : Char) : List Char :=
  if c = mark ∨ c = '\\' then ['\\', c]
  else if c = '\n' then ['\\', 'n']
  else if c = '\r' then ['\\', 'r']
  else if c = '\t' then ['\\', 't']
  else if isPrintable c then [c]
  else if c.toNat < 0x100 then ['\\', 'x'] ++ hexDigits 2 c.toNat
  else if c.toNat < 0x10000 then ['\\', 'u'] ++ hexDigits 4 c.toNat
  else ['\\', 'U'] ++ hexDigits 8 c.toNat

/-- A text between quotes, with what cannot be shown escaped. -/
def quote (text : String) : String :=
  let chars := text.toList
  let mark := if chars.contains '\'' && !chars.contains '"' then '"' else '\''
  String.ofList (mark :: (chars.flatMap (quoteChar mark) ++ [mark]))

end LanguageServer.Text
