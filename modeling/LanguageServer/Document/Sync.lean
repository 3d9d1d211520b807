/-
# Following a client's documents

What the notifications about opening, changing and closing a document ask for. A
notification that lacks what it needs asks for nothing.
-/

import LanguageServer.Document.Store
import LanguageServer.Document.Uri

namespace LanguageServer.Sync

/-- The document that parameters name. -/
def uri? (params : Json) : Option Text :=
  (params.path? ["textDocument", "uri"]).bind Uri.ofJson?

/-- The document that a notification edits: its name is taken from the object about
the document, as its text is. -/
def documentUri? (params : Json) : Option Text :=
  ((params.object? "textDocument").bind fun document => document.string? "uri").filter Uri.isValid

/-- A notification edits the document that its parameters name. -/
theorem documentUri?_eq_uri? (params : Json) : documentUri? params = uri? params := by
  simp only [documentUri?, uri?, Json.object?, Json.path?, Option.bind_assoc]
  cases params.field? "textDocument" with
  | none => rfl
  | some document =>
      -- Only an object has fields, so a value of another kind names no document either way.
      cases document with
      | obj fields =>
          simp only [Option.bind_some, Json.asObject?, Json.string?]
          cases (Json.obj fields).field? "uri" <;> rfl
      | null | bool | int | float | str | arr => rfl

/-- The text that comes with the name of a document. -/
def documentText? (params : Json) : Option Text :=
  (params.object? "textDocument").bind fun document => document.string? "text"

/-- The text of the last change in a list of changes. -/
def lastChange? (params : Json) : Option Text :=
  ((params.array? "contentChanges").bind List.getLast?).bind fun change => change.string? "text"

/-- The text after a change: the last change holds the whole text, and the text
beside the name stands in for a missing one. -/
def changedText? (params : Json) : Option Text :=
  (lastChange? params).or (documentText? params)

/-- The document that an opening names, with its text. -/
def opened? (params : Json) : Option (Text × Text) := do
  let uri ← documentUri? params
  let text ← documentText? params
  return (uri, text)

/-- The document that a change names, with its new text. -/
def changed? (params : Json) : Option (Text × Text) := do
  let uri ← documentUri? params
  let text ← changedText? params
  return (uri, text)

/-- The open document that a closing names. -/
def closed? (store : Store) (params : Json) : Option Text :=
  (documentUri? params).filter store.contains

end LanguageServer.Sync
