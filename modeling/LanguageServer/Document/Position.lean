/-
# Places in a document

A `Position` is a place that the server has computed: a line and a character,
both counted from zero. A `Cursor` is a place that a client names, which may be
anywhere, also before the first line.
-/

import LanguageServer.Wire.Object

namespace LanguageServer

/-- A place in a document: the number of its line and of the character in it. -/
structure Position where
  line : Nat
  character : Nat
  deriving DecidableEq, Repr

/-- Whether a place comes before another one. -/
def Position.before (p q : Position) : Bool :=
  p.line < q.line || (p.line = q.line && p.character < q.character)

/-- A place as an object. -/
def Position.toJson (p : Position) : Json :=
  Wire.position (Wire.nat p.line) (Wire.nat p.character)

/-- The part of a document from one place up to another. -/
structure Range where
  start : Position
  stop : Position
  deriving DecidableEq, Repr

namespace Range

/-- A part of one line. -/
def onLine (line start stop : Nat) : Range :=
  ⟨⟨line, start⟩, ⟨line, stop⟩⟩

/-- A range as an object. -/
def toJson (r : Range) : Json :=
  Wire.range r.start.toJson r.stop.toJson

end Range

/-- A range in a named document. -/
structure Location where
  uri : Text
  range : Range
  deriving DecidableEq, Repr

/-- A location as an object. -/
def Location.toJson (l : Location) : Json :=
  Wire.location (.str l.uri) l.range.toJson

/-- The replacement of a range by a text. -/
structure TextEdit where
  range : Range
  newText : Text
  deriving DecidableEq, Repr

/-- An edit as an object. -/
def TextEdit.toJson (e : TextEdit) : Json :=
  Wire.textEdit e.range.toJson (.str e.newText)

/-- A place that a client names. -/
structure Cursor where
  line : Int
  character : Int
  deriving DecidableEq, Repr

namespace Cursor

/-- The place that an object names, if it has an integer line and character. -/
def ofJson? (value : Json) : Option Cursor := do
  let line ← value.int? "line"
  let character ← value.int? "character"
  return ⟨line, character⟩

/-- Whether a place comes before another one. -/
def before (p q : Cursor) : Bool :=
  p.line < q.line || (p.line = q.line && p.character < q.character)

end Cursor

/-- The part of a document that a client names. -/
structure Bounds where
  start : Cursor
  stop : Cursor
  deriving DecidableEq, Repr

namespace Bounds

/-- The part that an object names, if its two places are objects that name
places. -/
def ofJson? (value : Json) : Option Bounds := do
  let start ← (value.object? "start").bind Cursor.ofJson?
  let stop ← (value.object? "end").bind Cursor.ofJson?
  return ⟨start, stop⟩

/-- Whether two parts have a place in common; their ends belong to them. -/
def touches (a b : Bounds) : Bool :=
  !b.stop.before a.start && !a.stop.before b.start

end Bounds

end LanguageServer
