/-
# Call hierarchy

The functions that call a function, in all open documents. A call is the name
directly before an opening parenthesis, not inside a longer word, and it is made
by the function whose block it stands in. `inDocument` first lists the calls in
order and then gathers those of each caller.
-/

import LanguageServer.Document.Block
import LanguageServer.Document.Declaration
import LanguageServer.Document.Store

namespace LanguageServer

open Text

/-- A line with its number and the lines after it, where a function may be
declared. -/
structure Declared where
  number : Nat
  line : Line
  rest : List Line

namespace Declared

/-- All lines, the first of which has a given number. -/
def all (number : Nat) : List Line → List Declared
  | [] => []
  | line :: rest => ⟨number, line, rest⟩ :: all (number + 1) rest

/-- The nearest declaration after one more line. -/
def nearest (known : Option Declared) (next : Declared) : Option Declared :=
  if (Declaration.function? next.line).isSome then some next else known

/-- The line where the block of a declaration is closed. -/
def closing? (declared : Declared) : Option Nat :=
  Block.closingFrom 0 declared.number (declared.line :: declared.rest)

/-- Whether the block of a declaration reaches as far as a line; one that is not
closed reaches to the end of the document. -/
def reaches (declared : Declared) (number : Nat) : Bool :=
  match declared.closing? with
  | none => true
  | some last => decide (number ≤ last)

/-- The place where the block of a declaration ends: where it is closed, or with
the document. -/
def stop (declared : Declared) : Position :=
  let last := declared.closing?.getD (declared.number + declared.rest.length)
  ⟨last, ((declared.line :: declared.rest).getD (last - declared.number) []).length⟩

end Declared

/-- A declared function: its name, its document, all of it, and its name in it. -/
structure CallItem where
  name : Text
  uri : Text
  range : Range
  selection : Range
  deriving DecidableEq, Repr

namespace CallItem

/-- A function as an object. -/
def toJson (item : CallItem) : Json :=
  .obj [("name", .str item.name), ("kind", Wire.nat Wire.SymbolKind.function.toNat),
    ("uri", .str item.uri), ("range", item.range.toJson),
    ("selectionRange", item.selection.toJson)]

/-- The function that a line declares. -/
def ofDeclared (uri : Text) (declared : Declared) : CallItem :=
  let name := (Declaration.function? declared.line).getD []
  let column := Declaration.functionColumn declared.line
  { name := Text.ofList name
    uri := uri
    range := ⟨⟨declared.number, 0⟩, declared.stop⟩
    selection := .onLine declared.number column (column + name.length) }

/-- The declarations of a function in one document. -/
def inDocument (name : Line) (uri text : Text) : List CallItem :=
  (Declared.all 0 (lines text)).filterMap fun declared =>
    if Declaration.function? declared.line = some name then some (ofDeclared uri declared)
    else none

/-- The declarations of the function at a place, in all open documents, if there
is one. -/
def prepare? (store : Store) (uri : Text) (position : Json) : Option (List CallItem) :=
  match store.get? uri, Cursor.ofJson? position with
  | some text, some cursor =>
      match identifierAt? (lines text) cursor with
      | none => none
      | some name =>
          match store.entries.flatMap fun (uri, text) => inDocument name uri text with
          | [] => none
          | items => some items
  | _, _ => none

end CallItem

/-- A call: the line that declares the caller, and where the callee's name
stands. -/
structure CallSite where
  caller : Declared
  range : Range

namespace CallSite

/-- The declaration of the function around a line: the nearest one, if its block
reaches as far. -/
def enclosing? (nearest : Option Declared) (number : Nat) : Option Declared :=
  nearest.filter fun declared => declared.reaches number

/-- Whether a text starts with a call of a function. -/
def startsWith (name text : Line) : Bool :=
  (name ++ [CodePoint.char '(']).isPrefixOf text

/-- The columns of a line where a function is called. The name in its own
declaration is no call. -/
def columns (name line : Line) : List Nat :=
  let found := wordStarts (startsWith name) none 0 line
  if Declaration.function? line = some name then
    found.filter fun column => column ≠ Declaration.functionColumn line
  else found

/-- The calls on a line, given the nearest declaration; calls outside every
function are left out. -/
def onLine (name : Line) (nearest : Option Declared) (line : Line) (number : Nat) :
    List CallSite :=
  match columns name line with
  | [] => []
  | found =>
      match enclosing? nearest number with
      | none => []
      | some caller =>
          found.map fun column => ⟨caller, .onLine number column (column + name.length)⟩

/-- The calls in lines, the first of which has a given number, in order. -/
def inLines (name : Line) (nearest : Option Declared) (number : Nat) : List Line → List CallSite
  | [] => []
  | line :: rest =>
      let nearest := Declared.nearest nearest ⟨number, line, rest⟩
      onLine name nearest line number ++ inLines name nearest (number + 1) rest

end CallSite

/-- A caller with the places of its calls. -/
structure IncomingCall where
  caller : CallItem
  ranges : List Range
  deriving DecidableEq, Repr

namespace IncomingCall

/-- A caller as an object. -/
def toJson (call : IncomingCall) : Json :=
  .obj [("from", call.caller.toJson), ("fromRanges", .arr (call.ranges.map Range.toJson))]

/-- The calls of one caller, of which there is at least one. -/
def ofSites? (uri : Text) : List CallSite → Option IncomingCall
  | [] => none
  | site :: rest =>
      some ⟨CallItem.ofDeclared uri site.caller, (site :: rest).map CallSite.range⟩

/-- The callers of a function in one document. The calls of a caller follow each
other, because a call belongs to the nearest declaration before it. -/
def inDocument (name : Line) (uri text : Text) : List IncomingCall :=
  ((CallSite.inLines name none 0 (lines text)).splitBy fun a b =>
    a.caller.number = b.caller.number).filterMap (ofSites? uri)

/-- The callers of a function in all open documents. The empty name has none. -/
def incoming (store : Store) (name : Text) : List IncomingCall :=
  if name.isEmpty then []
  else store.entries.flatMap fun (uri, text) => inDocument name.toList uri text

end IncomingCall

end LanguageServer
