/-
# Frames

A message travels as a header that announces its length in bytes, a blank line,
and its body in UTF-8. This module writes a frame and takes one apart strictly;
`Frame.Reader` reads frames from a stream and is more lenient about headers.
-/

import LanguageServer.Decimal.Integer
import LanguageServer.Text.Blank
import LanguageServer.Text.Search
import LanguageServer.Text.Utf8

namespace LanguageServer.Frame

/-- What stands before the length in a header. -/
def lengthLabel : String := "Content-Length: "

/-- What stands between the header and the body. -/
def separator : String := "\r\n\r\n"

/-- The header of a body. -/
def header (body : String) : String :=
  lengthLabel ++ String.ofList (Decimal.digits (Utf8.encode body).length)

/-- A frame as text. -/
def text (body : String) : String :=
  header body ++ separator ++ body

/-- A frame as bytes. -/
def encode (body : String) : Bytes :=
  Utf8.encode (text body)

/-- The header and the body of a framed text: the parts before and after the
first separator. -/
def split? (framed : String) : Option (String × String) :=
  (Text.cut? separator.toList framed.toList).map fun (before, after) =>
    (String.ofList before, String.ofList after)

/-- The header and the body of framed bytes, if they are UTF-8. -/
def decode? (framed : Bytes) : Option (String × String) :=
  match Utf8.decode framed with
  | .error _ => none
  | .ok framed => split? framed

/-- A header or a part of it without the blanks at both ends. -/
def trim (header : List Char) : List Char :=
  Text.trimWhile (fun c => Text.isBlank c) header

/-- The numeral that a header value consists of once trimmed, if it is one. -/
def numeral? (value : List Char) : Option (List Char) :=
  let trimmed := trim value
  if !trimmed.isEmpty && trimmed.all Char.isDigit then some trimmed else none

/-- The length that a header announces. The label has to match exactly. -/
def contentLength? (header : String) : Except Decimal.Oversized (Option Nat) :=
  let label := lengthLabel.toList
  if label.isPrefixOf header.toList then
    match numeral? (header.toList.drop label.length) with
    | some numeral => (Decimal.read numeral).map some
    | none => .ok none
  else .ok none

end LanguageServer.Frame
