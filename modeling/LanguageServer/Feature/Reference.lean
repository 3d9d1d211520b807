/-
# References, highlights and rename

Three views of the occurrences of the one variable that the language resolves.
They all report the first occurrence on each line, also inside a longer word,
and report it only when the cursor is in front of the variable's name.
-/

import LanguageServer.Feature.Hover

namespace LanguageServer.Reference

open Text

/-- The variable that can be resolved. -/
def target : Line :=
  [.char 'm', .char 'y', .char '_', .char 'v', .char 'a', .char 'r', .char 'i', .char 'a',
    .char 'b', .char 'l', .char 'e']

/-- The occurrences of the variable at a place, if it is the one. -/
def occurrences? (store : Store) (uri : Text) (position : Json) : Option (List Range) :=
  match store.get? uri with
  | some text =>
      if wordLeftOf? store uri position 0 = some target then
        some (firstOccurrences target (lines text))
      else none
  | none => none

/-- The places where the variable is used. -/
def references (store : Store) (uri : Text) (position : Json) : List Location :=
  ((occurrences? store uri position).getD []).map (⟨uri, ·⟩)

/-- The places to highlight. -/
def highlights (store : Store) (uri : Text) (position : Json) : List Range :=
  (occurrences? store uri position).getD []

/-- A highlight as an object. -/
def highlightJson (range : Range) : Json :=
  .obj [("range", range.toJson), ("kind", Wire.nat Wire.HighlightKind.text.toNat)]

/-- The edits of one document that put a name in the place of the variable, as an
object. -/
def renameJson (uri : Text) (newName : Json) (ranges : List Range) : Json :=
  Wire.workspaceEdit
    (.obj [(uri, .arr (ranges.map fun range => Wire.textEdit range.toJson newName))])

/-- The edits that rename the variable at a place. -/
def rename? (store : Store) (uri : Text) (position : Json) (newName : Text) : Option Json :=
  (occurrences? store uri position).map (renameJson uri (.str newName))

end LanguageServer.Reference
