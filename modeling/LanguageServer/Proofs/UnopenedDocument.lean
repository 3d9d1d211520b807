/-
# Documents that are not open

A document that is not open and an open one without text look the same from outside: a store
is asked with the same outcome when a document is opened in it with the empty text
(`Store.answersAgree_put_empty`). Some answers take the text of a document to be empty if it is
not open, some ask whether it is open and have nothing to say otherwise, and some go through all
open documents. An empty text has no lines, and all of these come to the same.

Suggestions are the exception: there are always some for a document that is open
(`FeatureRequest.completionAnswer_put_empty`).
-/

import LanguageServer.Proofs.DocumentEdit
import LanguageServer.Proofs.Lifecycle
import LanguageServer.Proofs.LineBreak

namespace LanguageServer

open Text

namespace Text

theorem lines_empty : lines "" = [] := rfl

/-- Where there are no lines, no cursor points at one. -/
theorem locate?_nil (cursor : Cursor) : locate? [] cursor = none := by
  rw [locate?, List.getElem?_nil]
  exact ite_self none

theorem wordFrom?_nil (cursor : Cursor) : wordFrom? [] cursor = none := by
  rw [wordFrom?, locate?_nil, Option.map_none]

theorem wordUpTo?_nil (cursor : Cursor) : wordUpTo? [] cursor = none := by
  rw [wordUpTo?, locate?_nil]

theorem identifierAt?_nil (cursor : Cursor) : identifierAt? [] cursor = none := by
  rw [identifierAt?, locate?_nil]

end Text

namespace Store

variable {store : Store} {uri : Text}

/-- A document is the same in both stores, or it is the one that has been opened. -/
theorem get?_put_empty (h : store.get? uri = none) (asked : Text) :
    (store.put uri "").get? asked = store.get? asked ∨
      store.get? asked = none ∧ (store.put uri "").get? asked = some ("" : Text) := by
  rw [get?_put]
  by_cases hasked : asked = uri
  · exact Or.inr ⟨hasked ▸ h, if_pos hasked⟩
  · exact Or.inl (if_neg hasked)

theorem textOf_put_empty (h : store.get? uri = none) (asked : Text) :
    FeatureRequest.textOf (store.put uri "") asked = FeatureRequest.textOf store asked := by
  rw [FeatureRequest.textOf, FeatureRequest.textOf]
  rcases get?_put_empty h asked with hsame | ⟨hnone, hempty⟩
  · rw [hsame]
  · rw [hnone, hempty]
    rfl

theorem entries_put_empty (h : store.get? uri = none) :
    (store.put uri "").entries = store.entries ++ [(uri, ("" : Text))] := by
  have hnew : uri ∉ store.entries.map Prod.fst := by
    rw [← contains_iff_mem, contains, h]
    exact Bool.false_ne_true
  rw [entries_put, OrderedMap.insert_of_not_mem hnew]

/-- Nothing is gathered from a document without text. -/
theorem flatMap_put_empty {α : Type} (ask : Text → Text → List α)
    (h : store.get? uri = none) (hask : ask uri "" = []) :
    ((store.put uri "").entries.flatMap fun (uri, text) => ask uri text) =
      store.entries.flatMap fun (uri, text) => ask uri text := by
  rw [entries_put_empty h, List.flatMap_append, List.flatMap_singleton]
  exact (congrArg (_ ++ ·) hask).trans (List.append_nil _)

theorem wordLeftOf?_put_empty (h : store.get? uri = none) (asked : Text) (position : Json)
    (columns : Int) :
    wordLeftOf? (store.put uri "") asked position columns =
      wordLeftOf? store asked position columns := by
  rcases get?_put_empty h asked with hsame | ⟨hnone, hempty⟩
  · simp only [wordLeftOf?, hsame]
  · cases hplace : Cursor.ofJson? position <;>
      simp only [wordLeftOf?, hnone, hempty, hplace, lines_empty, wordFrom?_nil, Option.map_none]

theorem occurrences?_put_empty (h : store.get? uri = none) (asked : Text) (position : Json) :
    Reference.occurrences? (store.put uri "") asked position =
      Reference.occurrences? store asked position := by
  have hword := wordLeftOf?_put_empty h asked position 0
  rcases get?_put_empty h asked with hsame | ⟨hnone, hempty⟩
  · simp only [Reference.occurrences?, hsame, hword]
  · have hnoWord : wordLeftOf? store asked position 0 = none := by
      simp only [wordLeftOf?, hnone]
    simp only [Reference.occurrences?, hnone, hempty, hword, hnoWord, if_neg, reduceCtorEq,
      not_false_eq_true]

/-- Opening a document without text changes no answer about documents. -/
theorem answersAgree_put_empty (h : store.get? uri = none) :
    AnswersAgree (store.put uri "") store where
  completion asked position := by
    rcases get?_put_empty h asked with hsame | ⟨hnone, hempty⟩
    · simp only [Completion.suggestions, hsame]
    · cases hplace : Cursor.ofJson? position <;>
        simp only [Completion.suggestions, hnone, hempty, hplace, lines_empty, wordUpTo?_nil]
  hover asked position := by rw [Hover.at?, Hover.at?, wordLeftOf?_put_empty h]
  definition asked position := by rw [Definition.at?, Definition.at?, wordLeftOf?_put_empty h]
  references asked position := by
    rw [Reference.references, Reference.references, occurrences?_put_empty h]
  rename asked position newName := by
    rw [Reference.rename?, Reference.rename?, occurrences?_put_empty h]
  highlights asked position := by
    rw [Reference.highlights, Reference.highlights, occurrences?_put_empty h]
  symbols asked := by
    rcases get?_put_empty h asked with hsame | ⟨hnone, hempty⟩
    · simp only [DocumentSymbol.ofDocument, hsame]
    · simp only [DocumentSymbol.ofDocument, hnone, hempty, lines_empty, List.zipIdx_nil,
        List.filterMap_nil]
  hints asked range := by
    rcases get?_put_empty h asked with hsame | ⟨hnone, hempty⟩
    · simp only [InlayHint.ofDocument, hsame]
    · cases hplace : Bounds.ofJson? range <;>
        simp only [InlayHint.ofDocument, hnone, hempty, hplace, lines_empty, List.zipIdx_nil,
          List.filterMap_nil]
  signature asked position := by
    rcases get?_put_empty h asked with hsame | ⟨hnone, hempty⟩
    · simp only [SignatureHelp.at?, hsame]
    · cases hplace : Cursor.ofJson? position <;>
        simp only [SignatureHelp.at?, hnone, hempty, hplace, lines_empty, List.getElem?_nil,
          Option.bind_none, ite_self]
  trimming asked := by
    rcases get?_put_empty h asked with hsame | ⟨hnone, hempty⟩
    · simp only [Trimming.edits, hsame]
    · simp only [Trimming.edits, hnone, hempty, lines_empty, List.zipIdx_nil, List.filterMap_nil]
  calls asked position := by
    have hitems (name : Line) := flatMap_put_empty (CallItem.inDocument name) h rfl
    rcases get?_put_empty h asked with hsame | ⟨hnone, hempty⟩
    · simp only [CallItem.prepare?, hsame, hitems]
    · cases hplace : Cursor.ofJson? position <;>
        simp only [CallItem.prepare?, hnone, hempty, hplace, lines_empty, identifierAt?_nil]
  incoming name := by
    have hcalls := flatMap_put_empty (IncomingCall.inDocument name.toList) h rfl
    rw [IncomingCall.incoming, IncomingCall.incoming, hcalls]

/-- A query is never found in a document without text. -/
theorem search_put_empty (h : store.get? uri = none) (query : Text) :
    WorkspaceSymbol.search (store.put uri "") query = WorkspaceSymbol.search store query := by
  have hnothing (query : Line) : WorkspaceSymbol.ofDocument query uri "" = [] := by
    rw [WorkspaceSymbol.ofDocument, lines_empty]
    exact ite_self []
  rw [WorkspaceSymbol.search, WorkspaceSymbol.search,
    flatMap_put_empty (WorkspaceSymbol.ofDocument (lower query.toList)) h (hnothing _)]

end Store

namespace FeatureRequest

variable {store : Store} {uri : Text}

/-- Questions other than for suggestions have the same answer, whichever parameters they have. -/
theorem answer_put_empty (h : store.get? uri = none) (params : Json) {feature : FeatureRequest}
    (hfeature : feature ≠ .completion) :
    feature.answer (store.put uri "") params = feature.answer store params := by
  have hagree := Store.answersAgree_put_empty h
  cases feature with
  | completion => exact absurd rfl hfeature
  | hover => simp only [answer, hagree.hover]
  | definition => simp only [answer, hagree.definition]
  | references => simp only [answer, hagree.references]
  | documentHighlight => simp only [answer, hagree.highlights]
  | rename => simp only [answer, hagree.rename]
  | documentSymbol => simp only [answer, hagree.symbols]
  | workspaceSymbol => simp only [answer, Store.search_put_empty h]
  | codeAction => rfl
  | codeLens | foldingRange | linkedEditingRange | semanticTokens | selectionRange =>
      simp only [answer, Store.textOf_put_empty h]
  | formatting => simp only [answer, hagree.trimming]
  | inlayHint => simp only [answer, hagree.hints]
  | signatureHelp => simp only [answer, hagree.signature]
  | prepareCallHierarchy => simp only [answer, hagree.calls]
  | incomingCalls => simp only [answer, hagree.incoming]

/-- Suggestions tell whether a document is open: there are some exactly if it is. -/
theorem completionAnswer_put_empty (h : store.get? uri = none) (position : Option Json) :
    completionAnswer store uri position = Wire.completionList [] ∧
      completionAnswer (store.put uri "") uri position =
        Wire.completionList (Completion.everywhere.map Completion.Item.toJson) := by
  have hclosed : store.contains uri = false := by
    rw [Store.contains, h]
    rfl
  have hopen : (store.put uri "").contains uri = true := by
    rw [Store.contains, Store.get?_put, if_pos rfl]
    rfl
  have hnone : Completion.suggestions (store.put uri "") uri (Json.orNull position) = [] := by
    rw [(Store.answersAgree_put_empty h).completion, Completion.suggestions, h]
  constructor
  · simp only [completionAnswer, hclosed, Bool.false_eq_true, if_false]
  · simp only [completionAnswer, hopen, if_true, Completion.offer, hnone]

end FeatureRequest

namespace Server

/-- The same session with one more document open, which has no text. -/
def openEmpty (server : Server) (uri : Text) : Server :=
  { server with documents := server.documents.put uri "" }

theorem due_openEmpty {server : Server} {uri : Text} (h : server.documents.get? uri = none)
    {feature : FeatureRequest} (hfeature : feature ≠ .completion) (params : Option Json) :
    (server.openEmpty uri).due feature params = server.due feature params := by
  simp only [due, openEmpty, FeatureRequest.answer_put_empty h _ hfeature]

variable [NestingLimits]

/-- Nobody can tell from the reply to a question, other than one for suggestions, whether a
document is not open or open without text. In every state of a session in which it is not
open, a question is answered as in the state with this document as well, whichever
documents its parameters name, and nothing else comes of it in either state. -/
theorem unopened_seems_empty {server : Server} {uri : Text}
    (h : server.documents.get? uri = none) {content : Text} {id : Rpc.Id}
    {feature : FeatureRequest} {params : Option Json}
    (hcontent : messageOf? content = some (.request id feature.method params))
    (hfeature : feature ≠ .completion) :
    ∃ answer log, answer ≠ .silent ∧
      server.handle content = { state := server, answer, log } ∧
        (server.openEmpty uri).handle content =
          { state := server.openEmpty uri, answer, log } := by
  have hsilent : (Rpc.Dispatcher.conclude id feature.method
      (server.due feature params).outcome).1 ≠ .silent := by
    rw [Rpc.Dispatcher.conclude_eq, Rpc.Answer.ofValue]
    split <;> rintro ⟨⟩
  have hopen := answer_feature (server.openEmpty uri) id feature params
  rw [due_openEmpty h hfeature] at hopen
  exact ⟨_, _, hsilent, (handle_request hcontent server).trans (answer_feature ..),
    (handle_request hcontent _).trans hopen⟩

omit [NestingLimits] in
/-- The symbols of a document that is not open, beside one that is. -/
theorem symbols_of_unopened :
    let server : Server := {
      documents := Store.empty.put "file:///a" "fn main() \x7b\x7d"
      initialized := true }
    let request : Json := .obj [("jsonrpc", .str "2.0"), ("id", .int 1),
      ("method", .str "textDocument/documentSymbol"),
      ("params", .obj [("textDocument", .obj [("uri", .str "file:///b")])])]
    letI : NestingLimits := .usual
    ∃ answer log, answer ≠ .silent ∧
      server.handle request.render = { state := server, answer, log } ∧
        (server.openEmpty "file:///b").handle request.render =
          { state := server.openEmpty "file:///b", answer, log } := by
  intro server request
  let _ : NestingLimits := .usual
  have hclosed : server.documents.get? "file:///b" = none := by decide
  have hplain : request.Plain 3 := by
    simp [request]
    decide
  have hcontent : messageOf? request.render =
      some (.request (.int 1) FeatureRequest.documentSymbol.method
        (some (.obj [("textDocument", .obj [("uri", .str "file:///b")])]))) :=
    messageOf?_render hplain (by decide)
  exact unopened_seems_empty hclosed hcontent (by decide)

end Server

end LanguageServer
