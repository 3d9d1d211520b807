/-
# Diagnostics

The one thing the server warns about: a line that mentions `TODO`, in any letter
case and also inside a longer word. The warning stands at the start of the line.
-/

import LanguageServer.Document.Position
import LanguageServer.Rpc.Reply
import LanguageServer.Text.Case
import LanguageServer.Text.Lines

namespace LanguageServer

/-- A remark about a part of a document. -/
structure Diagnostic where
  range : Range
  message : String
  severity : Wire.Severity
  source : String
  deriving DecidableEq, Repr

namespace Diagnostic

/-- A diagnostic as an object. -/
def toJson (d : Diagnostic) : Json :=
  Wire.diagnostic d.range.toJson (.str d.message) (Wire.nat d.severity.toNat) (.str d.source) .null

/-- What the warning says. -/
def todoMessage : String := "Found a TODO item."

/-- The warning about a line. -/
def todoAt (line : Nat) : Diagnostic where
  range := .onLine line 0 0
  message := todoMessage
  severity := .warning
  source := Wire.diagnosticSource

/-- Whether a line is warned about. -/
def mentionsTodo (line : Text.Line) : Bool :=
  Text.contains [.char 't', .char 'o', .char 'd', .char 'o'] (Text.lower line)

/-- The warnings about a text, in the order of its lines. -/
def ofText (text : Text) : List Diagnostic :=
  (Text.lines text).zipIdx.filterMap fun (line, number) =>
    if mentionsTodo line then some (todoAt number) else none

end Diagnostic

/-- The diagnostics of a document as they are announced to the client. An
announcement replaces the ones before it. -/
structure Publication where
  uri : Text
  diagnostics : List Diagnostic
  deriving DecidableEq, Repr

namespace Publication

/-- The announcement of any diagnostics of a document. -/
def message (uri diagnostics : Json) : Json :=
  Rpc.notification "textDocument/publishDiagnostics"
    (.obj [("uri", uri), ("diagnostics", diagnostics)])

/-- The body of an announcement. -/
def toJson (p : Publication) : Json :=
  message (.str p.uri) (.arr (p.diagnostics.map Diagnostic.toJson))

end Publication

end LanguageServer
