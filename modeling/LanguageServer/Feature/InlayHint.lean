/-
# Inlay hints

The type of a variable behind its name, on lines of the form
`let <name> = <literal>;`.
-/

import LanguageServer.Document.Store
import LanguageServer.Document.Word
import LanguageServer.Text.Blank

namespace LanguageServer

open Text

/-- A text shown behind a place. -/
structure InlayHint where
  position : Position
  label : String
  kind : Wire.InlayHintKind
  deriving DecidableEq, Repr

namespace InlayHint

/-- A hint as an object. -/
def toJson (hint : InlayHint) : Json :=
  .obj [("position", hint.position.toJson), ("label", .str hint.label),
    ("kind", Wire.nat hint.kind.toNat)]

/-- The type of a literal, as it is shown. A number consists of digits of any
script. -/
def literalType? (value : Line) : Option String :=
  if !value.isEmpty && value.all isDigit then some ": i32"
  else if 2 ≤ value.length ∧ value.head? = some (.char '"') ∧
      value.getLast? = some (.char '"') then some ": &str"
  else if value = [.char 't', .char 'r', .char 'u', .char 'e'] ∨
      value = [.char 'f', .char 'a', .char 'l', .char 's', .char 'e'] then some ": bool"
  else none

/-- What a declaration of a variable starts with. -/
def letLead : Line := [.char 'l', .char 'e', .char 't', .char ' ']

/-- The hint for a line. The name is all that stands before the equals sign. -/
def ofLine? (line : Line) (number : Nat) : Option InlayHint :=
  if letLead.isPrefixOf line then
    match cut? [.char ' ', .char '=', .char ' '] (line.drop letLead.length) with
    | none => none
    | some (name, value) =>
        (literalType? (dropEndWhile (· = .char ';') value)).map fun label =>
          ⟨⟨number, letLead.length + name.length⟩, label, .type⟩
  else none

/-- The hints for the lines of a document that a range covers. -/
def ofDocument (store : Store) (uri : Text) (range : Json) : List InlayHint :=
  match store.get? uri, Bounds.ofJson? range with
  | some text, some bounds =>
      (lines text).zipIdx.filterMap fun (line, number) =>
        if bounds.start.line ≤ number ∧ (number : Int) ≤ bounds.stop.line then ofLine? line number
        else none
  | _, _ => []

end InlayHint

end LanguageServer
