/-
# Lines

A text is a sequence of lines, each ended by a line feed or by the end of the
text. A carriage return before the end of a line belongs to the line's end, and
a final line feed starts no further line, so the empty text has no lines.
-/

import LanguageServer.Text.CodePoint
import LanguageServer.Text.Search

namespace LanguageServer.Text

/-- The characters of one line, without its end. -/
abbrev Line := List CodePoint

/-- A line without the one carriage return that may end it. -/
def dropReturn (line : Line) : Line :=
  if line.getLast? = some (.char '\r') then line.dropLast else line

/-- All but the last piece when that one is empty. -/
def dropEmptyLast (parts : List Line) : List Line :=
  if parts.getLast? = some [] then parts.dropLast else parts

/-- The lines of a sequence of characters. -/
def splitLines (text : List CodePoint) : List Line :=
  (dropEmptyLast (pieces '\n' text)).map dropReturn

/-- The lines of a text. -/
def lines (text : Text) : List Line :=
  splitLines text.toList

/-- The lines as one text, with a line feed between each two. -/
def joinLines (parts : List Line) : List CodePoint :=
  List.intercalate ['\n'] parts

/-- Characters with the line ends of every convention turned into line feeds:
a carriage return counts alone or together with the line feed after it. -/
def unifyLineEnds : List CodePoint → List CodePoint
  | [] => []
  | .char '\r' :: .char '\n' :: rest => .char '\n' :: unifyLineEnds rest
  | .char '\r' :: rest => .char '\n' :: unifyLineEnds rest
  | c :: rest => c :: unifyLineEnds rest

end LanguageServer.Text
