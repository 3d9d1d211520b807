/-
# Declarations

A line declares a name when, apart from leading blanks, it starts with a keyword,
one blank and a word.
-/

import LanguageServer.Document.Word
import LanguageServer.Text.Blank

namespace LanguageServer.Declaration

open Text

/-- The keyword of functions with the blank after it. -/
def functionLead : Line := [.char 'f', .char 'n', .char ' ']

/-- The keyword of structures with the blank after it. -/
def structLead : Line :=
  [.char 's', .char 't', .char 'r', .char 'u', .char 'c', .char 't', .char ' ']

/-- The word after a keyword and its blank that start a line, if there is one. -/
def nameAfter? (lead line : Line) : Option Line :=
  if lead.isPrefixOf line then
    let name := leadingWord (line.drop lead.length)
    if name.isEmpty then none else some name
  else none

/-- The name that a line declares with a keyword; the line may be indented. -/
def name? (lead line : Line) : Option Line :=
  nameAfter? lead (trimStart line)

/-- The function that a line declares. -/
def function? (line : Line) : Option Line :=
  name? functionLead line

/-- The column of the name on a line that declares a function. -/
def functionColumn (line : Line) : Nat :=
  line.length - (trimStart line).length + functionLead.length

end LanguageServer.Declaration
