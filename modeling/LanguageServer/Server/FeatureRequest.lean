/-
# Feature requests

The questions about documents that a client may ask once the server is running,
and their answers. An answer depends on the open documents and the parameters
only, and the one way a question can fail is that a parameter it requires is
missing or of the wrong type.
-/

import LanguageServer.Document.Sync
import LanguageServer.Feature.CallHierarchy
import LanguageServer.Feature.CodeAction
import LanguageServer.Feature.CodeLens
import LanguageServer.Feature.Completion
import LanguageServer.Feature.Folding
import LanguageServer.Feature.InlayHint
import LanguageServer.Feature.LinkedEditing
import LanguageServer.Feature.Reference
import LanguageServer.Feature.Selection
import LanguageServer.Feature.SemanticToken
import LanguageServer.Feature.Signature
import LanguageServer.Feature.Symbol
import LanguageServer.Feature.Trimming

namespace LanguageServer

/-- The questions about documents. -/
inductive FeatureRequest
  | completion
  | hover
  | definition
  | references
  | documentHighlight
  | rename
  | documentSymbol
  | workspaceSymbol
  | codeAction
  | codeLens
  | formatting
  | foldingRange
  | inlayHint
  | signatureHelp
  | linkedEditingRange
  | semanticTokens
  | selectionRange
  | prepareCallHierarchy
  | incomingCalls
  deriving DecidableEq, Repr

namespace FeatureRequest

/-- The name of a question's method. -/
def method : FeatureRequest → Text
  | .completion => "textDocument/completion"
  | .hover => "textDocument/hover"
  | .definition => "textDocument/definition"
  | .references => "textDocument/references"
  | .documentHighlight => "textDocument/documentHighlight"
  | .rename => "textDocument/rename"
  | .documentSymbol => "textDocument/documentSymbol"
  | .workspaceSymbol => "workspace/symbol"
  | .codeAction => "textDocument/codeAction"
  | .codeLens => "textDocument/codeLens"
  | .formatting => "textDocument/formatting"
  | .foldingRange => "textDocument/foldingRange"
  | .inlayHint => "textDocument/inlayHint"
  | .signatureHelp => "textDocument/signatureHelp"
  | .linkedEditingRange => "textDocument/linkedEditingRange"
  | .semanticTokens => "textDocument/semanticTokens/full"
  | .selectionRange => "textDocument/selectionRange"
  | .prepareCallHierarchy => "textDocument/prepareCallHierarchy"
  | .incomingCalls => "callHierarchy/incomingCalls"

/-- All questions. -/
def all : List FeatureRequest :=
  [.completion, .hover, .definition, .references, .documentHighlight, .rename, .documentSymbol,
    .workspaceSymbol, .codeAction, .codeLens, .formatting, .foldingRange, .inlayHint,
    .signatureHelp, .linkedEditingRange, .semanticTokens, .selectionRange, .prepareCallHierarchy,
    .incomingCalls]

/-- The question that a method names. -/
def ofMethod? (name : Text) : Option FeatureRequest :=
  all.find? fun request => request.method = name

/-- The parameters that a question may require. -/
inductive Required
  | uri
  | position
  | range
  | newName
  | positions
  | item
  | itemName
  deriving DecidableEq, Repr

/-- The wording for a parameter that is missing. -/
def Required.message : Required → String
  | .uri => "Missing textDocument.uri"
  | .position => "Missing position"
  | .range => "Missing range"
  | .newName => "Missing newName"
  | .positions => "Missing positions"
  | .item => "Missing item"
  | .itemName => "Missing item.name"

/-- A value that is required. -/
def require {α : Type} (what : Required) : Option α → Except Required α
  | none => .error what
  | some value => .ok value

/-- The document in question. -/
def requireUri (params : Json) : Except Required Text :=
  require .uri (Sync.uri? params)

/-- The document and the place in question. -/
def requirePlace (params : Json) : Except Required (Text × Json) := do
  let uri ← requireUri params
  let position ← require .position (params.object? "position")
  return (uri, position)

/-- The document and the part of it in question. -/
def requirePart (params : Json) : Except Required (Text × Json) := do
  let uri ← requireUri params
  let range ← require .range (params.object? "range")
  return (uri, range)

/-- A field that is a string with at least one character. -/
def nonemptyString? (value : Json) (key : Text) : Option Text :=
  (value.string? key).filter fun s => !s.isEmpty

/-- The text of a document; one that is not open counts as empty. -/
def textOf (store : Store) (uri : Text) : Text :=
  (store.get? uri).getD ""

/-- A list of results. -/
def listJson {α : Type} (toJson : α → Json) (results : List α) : Json :=
  .arr (results.map toJson)

/-- A result, or null in its absence. -/
def optionJson {α : Type} (toJson : α → Json) (result : Option α) : Json :=
  Json.orNull (result.map toJson)

/-- Suggestions for a document that is open, and none for another one. -/
def completionAnswer (store : Store) (uri : Text) (position : Option Json) : Json :=
  if store.contains uri then
    Wire.completionList
      ((Completion.offer store uri (Json.orNull position)).map Completion.Item.toJson)
  else Wire.completionList []

/-- The answer to a question. -/
def answer (store : Store) (params : Json) : FeatureRequest → Except Required Json
  | .completion => do
      let uri ← requireUri params
      return completionAnswer store uri (params.object? "position")
  | .hover => do
      let (uri, position) ← requirePlace params
      return optionJson Hover.toJson (Hover.at? store uri position)
  | .definition => do
      let (uri, position) ← requirePlace params
      return optionJson Location.toJson (Definition.at? store uri position)
  | .references => do
      let (uri, position) ← requirePlace params
      return listJson Location.toJson (Reference.references store uri position)
  | .documentHighlight => do
      let (uri, position) ← requirePlace params
      return listJson Reference.highlightJson (Reference.highlights store uri position)
  | .rename => do
      let (uri, position) ← requirePlace params
      let newName ← require .newName (nonemptyString? params "newName")
      return Json.orNull (Reference.rename? store uri position newName)
  | .documentSymbol => do
      let uri ← requireUri params
      return listJson DocumentSymbol.toJson (DocumentSymbol.ofDocument store uri)
  | .workspaceSymbol =>
      .ok (listJson WorkspaceSymbol.toJson
        (WorkspaceSymbol.search store ((params.string? "query").getD "")))
  | .codeAction => do
      let (uri, range) ← requirePart params
      let diagnostics := (params.object? "context").bind fun context => context.array? "diagnostics"
      return .arr (CodeAction.fixes uri range (diagnostics.getD []))
  | .codeLens => do
      let uri ← requireUri params
      return listJson CodeLens.toJson (CodeLens.ofText (textOf store uri))
  | .formatting => do
      let uri ← requireUri params
      return listJson TextEdit.toJson (Trimming.edits store uri)
  | .foldingRange => do
      let uri ← requireUri params
      return listJson FoldingRange.toJson (FoldingRange.ofText (textOf store uri))
  | .inlayHint => do
      let (uri, range) ← requirePart params
      return listJson InlayHint.toJson (InlayHint.ofDocument store uri range)
  | .signatureHelp => do
      let (uri, position) ← requirePlace params
      return optionJson SignatureHelp.toJson (SignatureHelp.at? store uri position)
  | .linkedEditingRange => do
      let (uri, position) ← requirePlace params
      return optionJson LinkedRanges.toJson (LinkedRanges.at? (textOf store uri) position)
  | .semanticTokens => do
      let uri ← requireUri params
      return SemanticToken.answer (textOf store uri)
  | .selectionRange => do
      let uri ← requireUri params
      let positions ← require .positions (params.array? "positions")
      return listJson Selection.toJson (Selection.ofText (textOf store uri) positions)
  | .prepareCallHierarchy => do
      let (uri, position) ← requirePlace params
      return optionJson (listJson CallItem.toJson) (CallItem.prepare? store uri position)
  | .incomingCalls => do
      let item ← require .item (params.object? "item")
      let name ← require .itemName (nonemptyString? item "name")
      return listJson IncomingCall.toJson (IncomingCall.incoming store name)

end FeatureRequest

end LanguageServer
