/-
# Symbols

The functions that a document declares at the start of its lines, and the search
for declarations of functions and structures in all open documents.
-/

import LanguageServer.Document.Declaration
import LanguageServer.Document.Store
import LanguageServer.Text.Case

namespace LanguageServer

open Text

/-- A declared name with the line that declares it and the part of that line the
name takes. -/
structure DocumentSymbol where
  name : Text
  kind : Wire.SymbolKind
  range : Range
  selection : Range
  deriving DecidableEq, Repr

namespace DocumentSymbol

/-- A symbol as an object. -/
def toJson (s : DocumentSymbol) : Json :=
  .obj [("name", .str s.name), ("kind", Wire.nat s.kind.toNat), ("range", s.range.toJson),
    ("selectionRange", s.selection.toJson)]

/-- The function that a line declares at its very start. -/
def ofLine? (line : Line) (number : Nat) : Option DocumentSymbol :=
  (Declaration.nameAfter? Declaration.functionLead line).map fun name =>
    let column := Declaration.functionLead.length
    { name := Text.ofList name
      kind := .function
      range := .onLine number 0 line.length
      selection := .onLine number column (column + name.length) }

/-- The functions of a document in the order of its lines. -/
def ofDocument (store : Store) (uri : Text) : List DocumentSymbol :=
  match store.get? uri with
  | none => []
  | some text => (lines text).zipIdx.filterMap fun (line, number) => ofLine? line number

end DocumentSymbol

/-- A declared name with the document and the line that declare it. -/
structure WorkspaceSymbol where
  name : Text
  kind : Wire.SymbolKind
  location : Location
  deriving DecidableEq, Repr

namespace WorkspaceSymbol

/-- A symbol as an object. -/
def toJson (s : WorkspaceSymbol) : Json :=
  .obj [("name", .str s.name), ("kind", Wire.nat s.kind.toNat), ("location", s.location.toJson)]

/-- The declarations that are searched for, functions before structures. -/
def searched : List (Line × Wire.SymbolKind) :=
  [(Declaration.functionLead, .function), (Declaration.structLead, .record)]

/-- The declarations of a line whose names contain a query in lower case. -/
def ofLine (query : Line) (uri : Text) (line : Line) (number : Nat) : List WorkspaceSymbol :=
  searched.filterMap fun (lead, kind) =>
    match Declaration.name? lead line with
    | none => none
    | some name =>
        if contains query (lower name) then
          some ⟨Text.ofList name, kind, ⟨uri, .onLine number 0 line.length⟩⟩
        else none

/-- A line has a symbol for each declaration that is searched for and whose name contains
the query. -/
theorem mem_ofLine_iff {query : Line} {uri : Text} {line : Line} {number : Nat}
    {symbol : WorkspaceSymbol} :
    symbol ∈ ofLine query uri line number ↔
      ∃ entry ∈ searched, ∃ name, Declaration.name? entry.1 line = some name ∧
        contains query (lower name) = true ∧
        symbol = ⟨Text.ofList name, entry.2, ⟨uri, .onLine number 0 line.length⟩⟩ := by
  rw [ofLine, List.mem_filterMap]
  refine exists_congr fun ⟨lead, kind⟩ => and_congr_right fun _ => ?_
  simp only
  cases Declaration.name? lead line with
  | none => simp
  | some name =>
      by_cases hquery : contains query (lower name) = true
      · simp only [hquery, if_true, Option.some.injEq, exists_eq_left', true_and]
        exact eq_comm
      · simp [hquery]

/-- The declarations of a document whose names contain a query in lower case. A
document that does not contain the query anywhere is not looked into. -/
def ofDocument (query : Line) (uri text : Text) : List WorkspaceSymbol :=
  if contains query (lower text.toList) then
    (lines text).zipIdx.flatMap fun (line, number) => ofLine query uri line number
  else []

/-- The declarations in all open documents whose names contain a query, without
regard to case. The empty query finds nothing. -/
def search (store : Store) (query : Text) : List WorkspaceSymbol :=
  if query.isEmpty then []
  else store.entries.flatMap fun (uri, text) => ofDocument (lower query.toList) uri text

end WorkspaceSymbol

end LanguageServer
