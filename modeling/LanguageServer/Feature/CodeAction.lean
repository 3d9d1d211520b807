/-
# Code actions

A quick fix for each warning about a `TODO` that touches the part of the document
in question: the range of the warning is deleted. The warnings come from the
client, so the range goes back to it exactly as it came.
-/

import LanguageServer.Feature.Diagnostic

namespace LanguageServer.CodeAction

/-- The range of a client's diagnostic that can be fixed within some bounds. -/
def fixable? (requested : Bounds) (diagnostic : Json) : Option Json :=
  if diagnostic.string? "message" = some Diagnostic.todoMessage then
    (diagnostic.object? "range").filter fun range =>
      (Bounds.ofJson? range).any fun bounds => bounds.touches requested
  else none

/-- The action that deletes a range. -/
def removal (uri : Text) (range : Json) : Json :=
  .obj [("title", .str "Remove TODO item"), ("kind", .str "quickfix"),
    ("edit", Wire.workspaceEdit (.obj [(uri, .arr [Wire.textEdit range (.str "")])]))]

/-- The fixes for the diagnostics of a document within a range. -/
def fixes (uri : Text) (range : Json) (diagnostics : List Json) : List Json :=
  match Bounds.ofJson? range with
  | none => []
  | some requested => (diagnostics.filterMap (fixable? requested)).map (removal uri)

end LanguageServer.CodeAction
