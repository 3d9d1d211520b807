/-
# Objects on the wire

The JSON shapes of the objects that messages carry, built from the values of
their fields. An optional field is left out when its value is null.
-/

import LanguageServer.Json.Basic
import LanguageServer.Wire.Kind

namespace LanguageServer.Wire

/-- A natural number as a value. -/
def nat (n : Nat) : Json :=
  .int n

/-- A field that is left out when it has no value. -/
def optionalField (key : Text) : Json → List (Text × Json)
  | .null => []
  | value => [(key, value)]

/-- A place in a document. -/
def position (line character : Json) : Json :=
  .obj [("line", line), ("character", character)]

/-- The part of a document between two places. -/
def range (start stop : Json) : Json :=
  .obj [("start", start), ("end", stop)]

/-- A part of a named document. -/
def location (uri range : Json) : Json :=
  .obj [("uri", uri), ("range", range)]

/-- The name that diagnostics give as their source. -/
def diagnosticSource : String := "toy-lang-server"

/-- A remark about a part of a document. -/
def diagnostic (range message severity source code : Json) : Json :=
  .obj (("range", range) :: ("message", message) :: ("severity", severity) :: ("source", source)
    :: optionalField "code" code)

/-- A suggestion for the word being typed. -/
def completionItem (label kind detail documentation insertText : Json) : Json :=
  .obj (("label", label) :: ("kind", kind) :: (optionalField "detail" detail
    ++ optionalField "documentation" documentation ++ optionalField "insertText" insertText))

/-- An explanation of a word. -/
def hover (contents range : Json) : Json :=
  .obj (("contents", .obj [("kind", .str "markdown"), ("value", contents)])
    :: optionalField "range" range)

/-- The replacement of a part of a document. -/
def textEdit (range newText : Json) : Json :=
  .obj [("range", range), ("newText", newText)]

/-- Replacements in several documents, by their names. -/
def workspaceEdit (changes : Json) : Json :=
  .obj [("changes", changes)]

/-- The list that a completion request is answered with. -/
def completionList (items : List Json) : Json :=
  .obj [("isIncomplete", .bool false), ("items", .arr items)]

end LanguageServer.Wire
