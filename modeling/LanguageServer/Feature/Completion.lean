/-
# Completion

Suggestions for the word being typed: keywords first, then names of types, as
far as they start with what stands before the cursor, without regard to case.
Where there is nothing to go by, a fixed list of keywords is offered.
-/

import LanguageServer.Document.Store
import LanguageServer.Document.Word
import LanguageServer.Text.Case

namespace LanguageServer.Completion

open Text

/-- A suggestion. -/
structure Item where
  label : Text
  kind : Wire.CompletionKind
  deriving DecidableEq, Repr

/-- A suggestion as an object. -/
def Item.toJson (item : Item) : Json :=
  Wire.completionItem (.str item.label) (Wire.nat item.kind.toNat) .null .null .null

/-- The keywords offered everywhere. -/
def basics : List Text := ["fn", "let", "struct"]

/-- The keywords offered for the start of a word. -/
def keywords : List Text :=
  ["let", "loop", "fn", "for", "false", "if", "impl", "struct", "true", "type"]

/-- The names of types offered for the start of a word. -/
def typeNames : List Text := ["i32", "String", "str"]

/-- The suggestions that hold at every place. -/
def everywhere : List Item :=
  basics.map fun word => ⟨word, .keyword⟩

/-- The suggestions for a word in lower case that has been typed so far. -/
def forStart (typed : Line) : List Item :=
  (keywords.filter fun word => typed.isPrefixOf word.toList).map (⟨·, .keyword⟩)
    ++ (typeNames.filter fun word => typed.isPrefixOf (lower word.toList)).map (⟨·, .typeParameter⟩)

/-- The suggestions for the word before the cursor; none where no word ends
there. -/
def suggestions (store : Store) (uri : Text) (position : Json) : List Item :=
  match store.get? uri, Cursor.ofJson? position with
  | some text, some cursor =>
      match wordUpTo? (lines text) cursor with
      | some typed => forStart (lower typed)
      | none => []
  | _, _ => []

/-- The answer for an open document: the suggestions for the word before the
cursor, or the general ones if there are none. -/
def offer (store : Store) (uri : Text) (position : Json) : List Item :=
  match suggestions store uri position with
  | [] => everywhere
  | items => items

end LanguageServer.Completion
