/-
# Signature help

The signature of the macro whose call encloses the cursor, and the parameter the
cursor is at. Round and square brackets count alike. The call is found by going
back from the cursor to the nearest bracket that is not closed; the parameter is
the number of commas directly inside that bracket.
-/

import LanguageServer.Document.Store
import LanguageServer.Document.Word

namespace LanguageServer

open Text

/-- A call that is still open: its callee, and the text from its bracket on. -/
structure OpenCall where
  callee : Line
  inside : Line
  deriving DecidableEq, Repr

namespace OpenCall

/-- A bracket that opens a call. -/
def isOpening (c : CodePoint) : Bool :=
  c = '(' || c = '['

/-- A bracket that closes a call. -/
def isClosing (c : CodePoint) : Bool :=
  c = ')' || c = ']'

/-- How many characters of a text read backwards stand behind the nearest opening
bracket that is not closed, where `depth` brackets have been closed already. -/
def behindOpening? (depth : Nat) : List CodePoint → Option Nat
  | [] => none
  | c :: rest =>
      if isClosing c then (behindOpening? (depth + 1) rest).map (· + 1)
      else if isOpening c then
        match depth with
        | 0 => some 0
        | depth + 1 => (behindOpening? depth rest).map (· + 1)
      else (behindOpening? depth rest).map (· + 1)

/-- The open call at the end of a text. A bracket without a name before it is no
call. -/
def atEnd? (text : Line) : Option OpenCall :=
  match behindOpening? 0 text.reverse with
  | none => none
  | some behind =>
      let column := text.length - 1 - behind
      let start := runStart isNameChar text column
      if start = column then none else some ⟨slice text start column, text.drop column⟩

/-- The call that encloses a column of a line. -/
def at? (line : Line) (column : Nat) : Option OpenCall :=
  atEnd? (line.take column)

/-- The commas at depth one, where the depth before the text is given. -/
def commasAtOne (depth : Int) : List CodePoint → Nat
  | [] => 0
  | c :: rest =>
      if isOpening c then commasAtOne (depth + 1) rest
      else if isClosing c then commasAtOne (depth - 1) rest
      else if c = ',' ∧ depth = 1 then commasAtOne depth rest + 1
      else commasAtOne depth rest

/-- The number of the parameter that the end of the call is at. -/
def activeParameter (call : OpenCall) : Nat :=
  commasAtOne 0 call.inside

end OpenCall

/-- A macro's signature with its parameters and what they are for. -/
structure Signature where
  label : Text
  parameters : List (Text × Text)
  deriving DecidableEq, Repr

namespace Signature

/-- The macros with a known signature. -/
def known : List (Line × Signature) := [
  (Text.toList "println!", ⟨"println!(format: &str, ...)",
    [("format: &str", "Format string"), ("...", "Arguments for formatting")]⟩),
  (Text.toList "format!", ⟨"format!(format: &str, ...) -> String",
    [("format: &str", "Format string"), ("...", "Arguments for formatting")]⟩),
  (Text.toList "vec!", ⟨"vec![element, ...] -> Vec<T>",
    [("element", "Vector element"), ("...", "Additional elements")]⟩),
  (Text.toList "assert_eq!", ⟨"assert_eq!(left: T, right: T)",
    [("left: T", "Left side of assertion"), ("right: T", "Right side of assertion")]⟩)]

/-- A signature as an object. -/
def toJson (signature : Signature) : Json :=
  .obj [("label", .str signature.label),
    ("parameters", .arr (signature.parameters.map fun (label, purpose) =>
      .obj [("label", .str label), ("documentation", .str purpose)]))]

end Signature

/-- The signature of an enclosing call and the parameter in question. -/
structure SignatureHelp where
  signature : Signature
  activeParameter : Nat
  deriving DecidableEq, Repr

namespace SignatureHelp

/-- Help as an object. -/
def toJson (help : SignatureHelp) : Json :=
  .obj [("signatures", .arr [help.signature.toJson]), ("activeSignature", Wire.nat 0),
    ("activeParameter", Wire.nat help.activeParameter)]

/-- The help for a call. -/
def ofCall? (call : OpenCall) : Option SignatureHelp :=
  (Signature.known.lookup call.callee).map fun signature => ⟨signature, call.activeParameter⟩

/-- The help at a place. A column past the end of the line counts as its end. -/
def at? (store : Store) (uri : Text) (position : Json) : Option SignatureHelp :=
  match store.get? uri, Cursor.ofJson? position with
  | some text, some cursor =>
      if cursor.line < 0 ∨ cursor.character < 0 then none
      else
        ((lines text)[cursor.line.toNat]?).bind fun line =>
          (OpenCall.at? line cursor.character.toNat).bind ofCall?
  | _, _ => none

end SignatureHelp

end LanguageServer
