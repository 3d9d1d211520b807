/-
# Trimming

Edits that remove the white space of ASCII from both ends of every line. A line
that has none there gets no edit.
-/

import LanguageServer.Document.Position
import LanguageServer.Document.Store
import LanguageServer.Text.Blank
import LanguageServer.Text.Lines

namespace LanguageServer.Trimming

open Text

/-- White space of ASCII; the vertical tab is not counted. -/
def isSpace (c : CodePoint) : Bool :=
  c = ' ' || c = '\t' || c = '\n' || c = '\x0c' || c = '\r'

/-- A line without the white space at its ends. -/
def trimmed (line : Line) : Line :=
  dropEndWhile isSpace (line.dropWhile isSpace)

/-- The edit that trims a line, if it needs one. -/
def edit? (line : Line) (number : Nat) : Option TextEdit :=
  if trimmed line = line then none
  else some ⟨.onLine number 0 line.length, Text.ofList (trimmed line)⟩

/-- The edits for an open document, in the order of its lines. -/
def edits (store : Store) (uri : Text) : List TextEdit :=
  match store.get? uri with
  | none => []
  | some text => (lines text).zipIdx.filterMap fun (line, number) => edit? line number

end LanguageServer.Trimming
