/-
# Indentation

The text with each line indented by the number of blocks that are open around
it. The line that opens a block stands outside it, and so does the one that
closes it. Lines without characters are left alone.
-/

import LanguageServer.Document.Block
import LanguageServer.Text.Blank

namespace LanguageServer.Indentation

open Text

/-- The number of blanks for each open block. -/
def width : Nat := 4

/-- A line at a level of indentation. -/
def atLevel (level : Nat) (line : Line) : Line :=
  List.replicate (level * width) (CodePoint.char ' ') ++ trimStart line

/-- The lines after a level of indentation. A closing line without an opening one
leaves the level at zero. -/
def fromLevel (level : Nat) : List Line → List Line
  | [] => []
  | line :: rest =>
      if line.isEmpty then line :: fromLevel level rest
      else if Block.opens line then atLevel level line :: fromLevel (level + 1) rest
      else if Block.closes line then atLevel (level - 1) line :: fromLevel (level - 1) rest
      else atLevel level line :: fromLevel level rest

/-- The text with its lines indented. It has no line feed at its end. -/
def reindent (text : Text) : Text :=
  Text.ofList (joinLines (fromLevel 0 (lines text)))

end LanguageServer.Indentation
