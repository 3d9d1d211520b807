/-
# Required parameters

Which parameters a question needs, said over the parts of an object
(`FeatureRequest.Complete`), and that nothing else makes it fail: a question with
complete parameters has a result, and any other one is refused because of a missing
parameter. What stands inside a place or a range that a client names plays no part.
-/

import LanguageServer.Proofs.DocumentEdit
import LanguageServer.Proofs.Lifecycle

namespace LanguageServer

open Rpc

namespace Json

theorem isSome_object?_iff {value : Json} {key : Text} :
    (value.object? key).isSome = true ↔ ∃ fields, value.path? [key] = some (.obj fields) := by
  simp only [object?, path?]
  cases value.field? key with
  | none => simp
  | some item => cases item <;> simp [asObject?]

end Json

namespace FeatureRequest

/-- Parameters name a document: by a string that is a valid name. -/
def NamesDocument (params : Json) : Prop :=
  ∃ uri, params.path? ["textDocument", "uri"] = some (.str uri) ∧ Uri.isValid uri = true

/-- Parameters have an object, whatever its fields are. -/
def HasObject (params : Json) (key : Text) : Prop :=
  ∃ fields, params.path? [key] = some (.obj fields)

/-- Parameters have an array, whatever its items are. -/
def HasArray (params : Json) (key : Text) : Prop :=
  ∃ items, params.path? [key] = some (.arr items)

/-- Parameters have a string with at least one character. -/
def HasText (params : Json) (path : List Text) : Prop :=
  ∃ text, params.path? path = some (.str text) ∧ text ≠ ""

/-- Parameters have all that a question needs. -/
def Complete (params : Json) : FeatureRequest → Prop
  | .completion | .documentSymbol | .codeLens | .formatting | .foldingRange | .semanticTokens =>
      NamesDocument params
  | .hover | .definition | .references | .documentHighlight | .signatureHelp
  | .linkedEditingRange | .prepareCallHierarchy =>
      NamesDocument params ∧ HasObject params "position"
  | .rename =>
      NamesDocument params ∧ HasObject params "position" ∧ HasText params ["newName"]
  | .codeAction | .inlayHint => NamesDocument params ∧ HasObject params "range"
  | .selectionRange => NamesDocument params ∧ HasArray params "positions"
  | .workspaceSymbol => True
  | .incomingCalls => HasObject params "item" ∧ HasText params ["item", "name"]

theorem exists_bind_ok_iff {α β : Type} {first : Except Required α} {next : α → Except Required β} :
    (∃ b, (first >>= next) = .ok b) ↔ ∃ a, first = .ok a ∧ ∃ b, next a = .ok b := by
  cases first with
  | error missing => simp [bind, Except.bind]
  | ok a => simp [bind, Except.bind]

theorem exists_pure_ok {α : Type} (a : α) : ∃ b, (pure a : Except Required α) = .ok b :=
  ⟨a, rfl⟩

theorem exists_require_ok_iff {α : Type} {what : Required} {value : Option α} :
    (∃ a, require what value = .ok a) ↔ value.isSome = true := by
  cases value <;> simp [require]

theorem exists_requireUri_ok_iff {params : Json} :
    (∃ uri, requireUri params = .ok uri) ↔ NamesDocument params := by
  rw [requireUri, exists_require_ok_iff, Option.isSome_iff_exists]
  simp only [Sync.uri?_eq_some_iff, NamesDocument]

theorem exists_requirePlace_ok_iff {params : Json} :
    (∃ place, requirePlace params = .ok place) ↔
      NamesDocument params ∧ HasObject params "position" := by
  simp only [requirePlace, exists_bind_ok_iff, exists_pure_ok, and_true, exists_and_right,
    exists_requireUri_ok_iff, exists_require_ok_iff, Json.isSome_object?_iff, HasObject]

theorem exists_requirePart_ok_iff {params : Json} :
    (∃ part, requirePart params = .ok part) ↔
      NamesDocument params ∧ HasObject params "range" := by
  simp only [requirePart, exists_bind_ok_iff, exists_pure_ok, and_true, exists_and_right,
    exists_requireUri_ok_iff, exists_require_ok_iff, Json.isSome_object?_iff, HasObject]

theorem isSome_array?_iff {params : Json} {key : Text} :
    (params.array? key).isSome = true ↔ HasArray params key := by
  rw [Option.isSome_iff_exists, HasArray]
  simp only [Sync.array?_eq_some_iff]

theorem isSome_nonemptyString?_iff {value : Json} {key : Text} :
    (nonemptyString? value key).isSome = true ↔ HasText value [key] := by
  rw [nonemptyString?, Option.isSome_iff_exists, HasText]
  simp [Option.filter_eq_some_iff, Json.string?_eq_some_iff, ← Bool.not_eq_true, Text.isEmpty_iff]

/-- The name of an item is looked for in the item. -/
theorem exists_itemName_ok_iff {params : Json} :
    (∃ item, require .item (params.object? "item") = .ok item ∧ HasText item ["name"]) ↔
      HasObject params "item" ∧ HasText params ["item", "name"] := by
  simp only [HasText, HasObject, Json.path?_cons_eq_object?, ← Json.isSome_object?_iff]
  cases params.object? "item" with
  | none => simp [require]
  | some item => simp [require]

/-- A question has a result exactly when its parameters are complete. -/
theorem answer_eq_ok_iff (store : Store) (params : Json) (request : FeatureRequest) :
    (∃ result, request.answer store params = .ok result) ↔ request.Complete params := by
  cases request with
  | workspaceSymbol => exact iff_of_true ⟨_, rfl⟩ trivial
  | incomingCalls =>
      simp only [answer, Complete, exists_bind_ok_iff, exists_pure_ok, and_true,
        exists_require_ok_iff, isSome_nonemptyString?_iff, exists_itemName_ok_iff]
  | _ =>
      simp only [answer, Complete, exists_bind_ok_iff, exists_pure_ok, and_true, exists_and_right,
        exists_requireUri_ok_iff, exists_requirePlace_ok_iff, exists_requirePart_ok_iff,
        exists_require_ok_iff, isSome_nonemptyString?_iff, isSome_array?_iff, HasArray, and_assoc]

end FeatureRequest

end LanguageServer
