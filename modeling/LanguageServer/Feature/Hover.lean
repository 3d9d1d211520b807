/-
# Hover and definition

Explanations of keywords, and the way to the definition of the one function that
the language resolves. Both look at the word that starts one column left of the
cursor.
-/

import LanguageServer.Document.Store
import LanguageServer.Document.Word

namespace LanguageServer

open Text

/-- The word from a given number of columns left of the cursor on. -/
def wordLeftOf? (store : Store) (uri : Text) (position : Json) (columns : Int) : Option Line :=
  match store.get? uri, Cursor.ofJson? position with
  | some text, some cursor =>
      (wordFrom? (lines text) ⟨cursor.line, cursor.character - columns⟩).map Word.text
  | _, _ => none

namespace Hover

/-- What is said about a keyword. -/
def explanation? (word : Line) : Option Text :=
  if word = [.char 'f', .char 'n'] then some "Keyword: Function definition"
  else if word = [.char 'l', .char 'e', .char 't'] then some "Keyword: Variable declaration"
  else if word = [.char 's', .char 't', .char 'r', .char 'u', .char 'c', .char 't'] then
    some "Keyword: Structure definition"
  else none

/-- The explanation of the keyword at a place. -/
def at? (store : Store) (uri : Text) (position : Json) : Option Text :=
  (wordLeftOf? store uri position 1).bind explanation?

/-- An explanation as an object. -/
def toJson (explanation : Text) : Json :=
  Wire.hover (.str explanation) .null

end Hover

namespace Definition

/-- The function that can be resolved. -/
def target : Line :=
  [.char 'm', .char 'y', .char '_', .char 'f', .char 'u', .char 'n', .char 'c', .char 't',
    .char 'i', .char 'o', .char 'n']

/-- Where the function at a place is defined: always at the top of the
document. -/
def at? (store : Store) (uri : Text) (position : Json) : Option Location :=
  if wordLeftOf? store uri position 1 = some target then some ⟨uri, .onLine 0 0 0⟩ else none

end Definition

end LanguageServer
