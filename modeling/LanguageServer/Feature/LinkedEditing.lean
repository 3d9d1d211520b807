/-
# Linked editing

All whole-word occurrences of the identifier at the cursor, so that they can be
edited together.
-/

import LanguageServer.Document.Word

namespace LanguageServer

open Text

/-- The occurrences of an identifier. -/
structure LinkedRanges where
  ranges : List Range
  word : Text
  deriving DecidableEq, Repr

namespace LinkedRanges

/-- Linked ranges as an object. -/
def toJson (linked : LinkedRanges) : Json :=
  .obj [("ranges", .arr (linked.ranges.map Range.toJson)), ("wordPattern", .str linked.word)]

/-- Whether a text starts with a word and no further word character. -/
def startsWith (word text : Line) : Bool :=
  word.isPrefixOf text && !(text.drop word.length).head?.any isWordChar

/-- The whole-word occurrences of a word on a line. -/
def onLine (word line : Line) (number : Nat) : List Range :=
  (wordStarts (startsWith word) none 0 line).map fun start =>
    Range.onLine number start (start + word.length)

/-- The occurrences of the identifier at a place of a text. -/
def at? (text : Text) (position : Json) : Option LinkedRanges :=
  match Cursor.ofJson? position with
  | none => none
  | some cursor =>
      (identifierAt? (lines text) cursor).map fun word =>
        ⟨(lines text).zipIdx.flatMap fun (line, number) => onLine word line number,
          Text.ofList word⟩

end LinkedRanges

end LanguageServer
