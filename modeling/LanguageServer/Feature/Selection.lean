/-
# Selection ranges

For each cursor a chain of growing selections: the word, the statement up to its
semicolons, and the block around it. Braces are matched character by character
here, across lines.
-/

import LanguageServer.Document.Word
import LanguageServer.Text.Blank

namespace LanguageServer.Selection

open Text

/-- The characters of a document in order, each with its place. -/
def placed (lines : List Line) : List (Position × CodePoint) :=
  lines.zipIdx.flatMap fun (line, number) =>
    line.zipIdx.map fun (c, column) => (⟨number, column⟩, c)

/-- The nearest opening brace that is not closed, going through characters from
the nearest one on, with `depth` closing braces passed already. -/
def openingBrace? (depth : Nat) : List (Position × CodePoint) → Option Position
  | [] => none
  | (place, c) :: rest =>
      if c = '\x7d' then openingBrace? (depth + 1) rest
      else if c = '\x7b' then
        match depth with
        | 0 => some place
        | depth + 1 => openingBrace? depth rest
      else openingBrace? depth rest

theorem openingBrace?_cons (depth : Nat) (place : Position) (c : CodePoint)
    (rest : List (Position × CodePoint)) :
    openingBrace? depth ((place, c) :: rest) =
      if c = '\x7d' then openingBrace? (depth + 1) rest
      else if c = '\x7b' then
        match depth with
        | 0 => some place
        | depth + 1 => openingBrace? depth rest
      else openingBrace? depth rest := by
  cases depth <;> rfl

/-- The nearest closing brace that closes nothing opened after the start, with
`depth` opening braces passed already. -/
def closingBrace? (depth : Nat) : List (Position × CodePoint) → Option Position
  | [] => none
  | (place, c) :: rest =>
      if c = '\x7b' then closingBrace? (depth + 1) rest
      else if c = '\x7d' then
        match depth with
        | 0 => some place
        | depth + 1 => closingBrace? depth rest
      else closingBrace? depth rest

theorem closingBrace?_cons (depth : Nat) (place : Position) (c : CodePoint)
    (rest : List (Position × CodePoint)) :
    closingBrace? depth ((place, c) :: rest) =
      if c = '\x7b' then closingBrace? (depth + 1) rest
      else if c = '\x7d' then
        match depth with
        | 0 => some place
        | depth + 1 => closingBrace? depth rest
      else closingBrace? depth rest := by
  cases depth <;> rfl

/-- The block around a part of a line, with its braces, given the characters of the
document. -/
def block? (characters : List (Position × CodePoint)) (line start stop : Nat) : Option Range :=
  let front := characters.filter fun (place, _) => place.before ⟨line, start⟩
  let back := characters.filter fun (place, _) => !place.before ⟨line, stop⟩
  match openingBrace? 0 front.reverse, closingBrace? 0 back with
  | some opening, some closing => some ⟨opening, ⟨closing.line, closing.character + 1⟩⟩
  | _, _ => none

/-- The column where the statement around a column starts: after the semicolon
before it and the blanks that follow. -/
def statementStart (line : Line) (column : Nat) : Nat :=
  let first := runStart (· ≠ ';') line column
  first + ((slice line first column).takeWhile isBlank).length

/-- The column where the statement around a column ends: after the next
semicolon, or where the line ends but for blanks. -/
def statementStop (line : Line) (column : Nat) : Nat :=
  match (line.drop column).findIdx? (· = .char ';') with
  | some offset => column + offset + 1
  | none => max (trimEnd line).length column

/-- The growing parts of a document around a column of a line, with equal
neighbours merged. -/
def chain (characters : List (Position × CodePoint)) (number : Nat) (line : Line) (column : Nat) :
    List Range :=
  let start := runStart isNameChar line column
  let stop := runStop isNameChar line column
  let first := statementStart line start
  let last := statementStop line stop
  let word := if start < stop then [Range.onLine number start stop] else []
  let statement := Range.onLine number first last
  let parts := word ++ statement :: (block? characters number first last).toList
  parts.foldr (fun part outer => if outer.head? = some part then outer else part :: outer) []

/-- The chain for a cursor, innermost part first, if the cursor is in the
document. -/
def chainAt? (lines : List Line) (characters : List (Position × CodePoint)) (cursor : Cursor) :
    Option (List Range) :=
  (locate? lines cursor).map fun (line, column) => chain characters cursor.line.toNat line column

/-- A chain as nested objects. -/
def toJson : List Range → Json
  | [] => .null
  | [part] => .obj [("range", part.toJson)]
  | part :: outer => .obj [("range", part.toJson), ("parent", toJson outer)]

/-- The chains for the places that are in the document. -/
def ofText (text : Text) (positions : List Json) : List (List Range) :=
  let all := lines text
  let characters := placed all
  positions.filterMap fun position => (Cursor.ofJson? position).bind (chainAt? all characters)

end LanguageServer.Selection
