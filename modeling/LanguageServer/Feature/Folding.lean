/-
# Folding

The blocks of a document that can be folded: those that are closed, and on a
later line.
-/

import LanguageServer.Document.Block
import LanguageServer.Wire.Object

namespace LanguageServer

open Text

/-- A block from its first opening brace to the first closing brace of its last
line. -/
structure FoldingRange where
  startLine : Nat
  startCharacter : Nat
  endLine : Nat
  endCharacter : Nat
  deriving DecidableEq, Repr

namespace FoldingRange

/-- A foldable block as an object. -/
def toJson (fold : FoldingRange) : Json :=
  .obj [("startLine", Wire.nat fold.startLine), ("startCharacter", Wire.nat fold.startCharacter),
    ("endLine", Wire.nat fold.endLine), ("endCharacter", Wire.nat fold.endCharacter),
    ("kind", .str "region")]

/-- The column of the first opening brace of a line. -/
def openingColumn (line : Line) : Nat :=
  line.idxOf (.char '\x7b')

/-- The column of the first closing brace of a line. -/
def closingColumn (line : Line) : Nat :=
  line.idxOf (.char '\x7d')

/-- The block that a line opens, if it can be folded. The lines after it are
given. -/
def ofLine? (number : Nat) (line : Line) (rest : List Line) : Option FoldingRange :=
  if Block.opens line then
    match Block.closingFrom 0 number (line :: rest) with
    | none => none
    | some last =>
        if last = number then none
        else
          let lastLine := (line :: rest).getD (last - number) []
          some ⟨number, openingColumn line, last, closingColumn lastLine⟩
  else none

/-- The foldable blocks of lines, the first of which has a given number. -/
def ofLines (number : Nat) : List Line → List FoldingRange
  | [] => []
  | line :: rest => (ofLine? number line rest).toList ++ ofLines (number + 1) rest

/-- The foldable blocks of a text, in the order of their first lines. -/
def ofText (text : Text) : List FoldingRange :=
  ofLines 0 (lines text)

end FoldingRange

end LanguageServer
