/-
# Words

A word is a run of word characters on a line. The three questions about the
word at a cursor differ in which part of the run they return: from the cursor on,
up to the cursor, or the whole run when it is an identifier.
-/

import LanguageServer.Document.Position
import LanguageServer.Text.Letter
import LanguageServer.Text.Lines
import LanguageServer.Text.Numeral

namespace LanguageServer.Text

/-- A character of a word: a letter, a numeral or an underscore. -/
def isWordChar (c : CodePoint) : Bool :=
  isLetter c || isNumeral c || c = '_'

/-- A character that an identifier may start with. -/
def isIdentifierStart (c : CodePoint) : Bool :=
  isLetter c || c = '_'

/-- A character of a word or of the name of a macro. -/
def isNameChar (c : CodePoint) : Bool :=
  isWordChar c || c = '!'

/-- The column where the run of a class of characters that ends at a column
starts. -/
def runStart (p : CodePoint → Bool) (line : Line) (column : Nat) : Nat :=
  column - ((line.take column).reverse.takeWhile p).length

/-- The column where the run of a class of characters that starts at a column
ends. -/
def runStop (p : CodePoint → Bool) (line : Line) (column : Nat) : Nat :=
  column + ((line.drop column).takeWhile p).length

/-- The word that a line starts with, empty if it starts with none. -/
def leadingWord (line : Line) : Line :=
  line.takeWhile isWordChar

/-- The line and the column that a cursor points at, if there is such a line and
the cursor is not past its end. -/
def locate? (lines : List Line) (cursor : Cursor) : Option (Line × Nat) :=
  if cursor.line < 0 ∨ cursor.character < 0 then none
  else
    match lines[cursor.line.toNat]? with
    | none => none
    | some line =>
        if cursor.character ≤ line.length then some (line, cursor.character.toNat) else none

/-- A word with the columns where it starts and ends. -/
structure Word where
  text : Line
  start : Nat
  stop : Nat
  deriving DecidableEq, Repr

/-- The word from the cursor on. It is empty where the cursor is not in front of
a word character. -/
def wordFrom? (lines : List Line) (cursor : Cursor) : Option Word :=
  (locate? lines cursor).map fun (line, column) =>
    let stop := runStop isWordChar line column
    ⟨slice line column stop, column, stop⟩

/-- The word up to the cursor, if it is not empty. -/
def wordUpTo? (lines : List Line) (cursor : Cursor) : Option Line :=
  match locate? lines cursor with
  | none => none
  | some (line, column) =>
      let word := slice line (runStart isWordChar line column) column
      if word.isEmpty then none else some word

/-- The whole word that the cursor is in front of a character of, if that word
is an identifier. -/
def identifierAt? (lines : List Line) (cursor : Cursor) : Option Line :=
  match locate? lines cursor with
  | none => none
  | some (text, column) =>
      if (text[column]?).any isWordChar then
        let word := slice text (runStart isWordChar text column) (runStop isWordChar text column)
        if word.head?.any isIdentifierStart then some word else none
      else none

/-- The columns of a line, counted from a given one on, where the text is accepted
and no word character stands before. The character before the first column is
given, if there is one. -/
def wordStarts (accepts : Line → Bool) (previous : Option CodePoint) (column : Nat) :
    Line → List Nat
  | [] => []
  | c :: rest =>
      let later := wordStarts accepts (some c) (column + 1) rest
      if !previous.any isWordChar && accepts (c :: rest) then column :: later else later

/-- The ranges of the first occurrence of a word on each line that has one. -/
def firstOccurrences (word : Line) (lines : List Line) : List Range :=
  lines.zipIdx.filterMap fun (line, number) =>
    (find? word line).map fun column => Range.onLine number column (column + word.length)

end LanguageServer.Text
