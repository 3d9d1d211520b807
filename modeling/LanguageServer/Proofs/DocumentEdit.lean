/-
# Edits of the open documents

Which messages edit the open documents, said over the parts of their parameters
(`Server.Asks`), and what an edit does to the list of documents, said without the
operations on it (`Edit.Effect`). A message that asks for an edit has exactly this
effect and is announced once, provided that the announcement can be sent; every other
message leaves the documents alone and announces nothing.

Whether the session may be in such a state plays no part: the laws hold of every
state, and so of those that a conversation comes to.
-/

import LanguageServer.Proofs.BuiltMessage
import LanguageServer.Proofs.Publishing

namespace LanguageServer

open Rpc

namespace Json

theorem asString?_eq_some_iff {value : Json} {s : Text} :
    value.asString? = some s ↔ value = .str s := by
  cases value <;> simp [asString?]

theorem string?_eq_some_iff {value : Json} {key s : Text} :
    value.string? key = some s ↔ value.path? [key] = some (.str s) := by
  simp [string?, path?, Option.bind_eq_some_iff, asString?_eq_some_iff]

/-- A path through a field goes through an object. -/
theorem path?_cons_eq_object? (value : Json) (key inner : Text) (rest : List Text) :
    value.path? (key :: inner :: rest) =
      (value.object? key).bind fun object => object.path? (inner :: rest) := by
  rw [path?, object?, Option.bind_assoc]
  cases value.field? key with
  | none => rfl
  | some object => cases object <;> rfl

end Json

namespace Sync

theorem uri?_eq_some_iff {params : Json} {uri : Text} :
    uri? params = some uri ↔
      params.path? ["textDocument", "uri"] = some (.str uri) ∧ Uri.isValid uri = true := by
  rw [uri?, Option.bind_eq_some_iff]
  constructor
  · rintro ⟨value, hpath, huri⟩
    obtain ⟨hstring, hvalid⟩ := Option.filter_eq_some_iff.mp huri
    rw [Json.asString?_eq_some_iff] at hstring
    exact ⟨hstring ▸ hpath, hvalid⟩
  · rintro ⟨hpath, hvalid⟩
    exact ⟨.str uri, hpath, Option.filter_eq_some_iff.mpr ⟨rfl, hvalid⟩⟩

theorem documentText?_eq_some_iff {params : Json} {text : Text} :
    documentText? params = some text ↔
      params.path? ["textDocument", "text"] = some (.str text) := by
  rw [documentText?, Json.path?_cons_eq_object?]
  simp only [Option.bind_eq_some_iff, Json.string?_eq_some_iff]

/-- The last of the changes that parameters list holds a text. -/
def LastChange (params : Json) (text : Text) : Prop :=
  ∃ changes change, params.path? ["contentChanges"] = some (.arr changes) ∧
    changes.getLast? = some change ∧ change.path? ["text"] = some (.str text)

/-- The text that parameters change a document to: the one of the last change, or else
the one beside the name of the document. -/
def ChangedTo (params : Json) (text : Text) : Prop :=
  LastChange params text ∨
    (∀ other, ¬LastChange params other) ∧
      params.path? ["textDocument", "text"] = some (.str text)

theorem array?_eq_some_iff {params : Json} {key : Text} {items : List Json} :
    params.array? key = some items ↔ params.path? [key] = some (.arr items) := by
  simp only [Json.array?, Json.path?, Option.bind_eq_some_iff, Option.some.injEq, exists_eq_right]
  constructor
  · rintro ⟨value, hfield, harray⟩
    cases value with
    | arr items' =>
        cases harray
        exact hfield
    | null | bool | int | float | str | obj => cases harray
  · intro hfield
    exact ⟨.arr items, hfield, rfl⟩

theorem lastChange?_eq_some_iff {params : Json} {text : Text} :
    lastChange? params = some text ↔ LastChange params text := by
  simp only [lastChange?, Option.bind_eq_some_iff, Json.string?_eq_some_iff, array?_eq_some_iff,
    LastChange]
  constructor
  · rintro ⟨change, ⟨changes, hchanges, hlast⟩, htext⟩
    exact ⟨changes, change, hchanges, hlast, htext⟩
  · rintro ⟨changes, change, hchanges, hlast, htext⟩
    exact ⟨change, ⟨changes, hchanges, hlast⟩, htext⟩

theorem changedText?_eq_some_iff {params : Json} {text : Text} :
    changedText? params = some text ↔ ChangedTo params text := by
  rw [changedText?, ChangedTo, Option.or_eq_some_iff, documentText?_eq_some_iff,
    lastChange?_eq_some_iff]
  have hnone : lastChange? params = none ↔ ∀ other, ¬LastChange params other := by
    simp only [← lastChange?_eq_some_iff, Option.eq_none_iff_forall_ne_some, ne_eq]
  rw [hnone]

theorem opened?_eq_some_iff {params : Json} {uri text : Text} :
    opened? params = some (uri, text) ↔
      uri? params = some uri ∧ documentText? params = some text := by
  rw [opened?, documentUri?_eq_uri?]
  cases uri? params <;> cases documentText? params <;> simp

theorem changed?_eq_some_iff {params : Json} {uri text : Text} :
    changed? params = some (uri, text) ↔
      uri? params = some uri ∧ changedText? params = some text := by
  rw [changed?, documentUri?_eq_uri?]
  cases uri? params <;> cases changedText? params <;> simp

theorem closed?_eq_some_iff {store : Store} {params : Json} {uri : Text} :
    closed? store params = some uri ↔ uri? params = some uri ∧ store.contains uri = true := by
  rw [closed?, documentUri?_eq_uri?, Option.filter_eq_some_iff]

end Sync

namespace Server

/-- A message asks for an edit: in a session that has started, a notification about a
document that names it properly and comes with the text that it needs. Only an open
document can be closed. -/
inductive Asks (server : Server) : Message → Edit → Prop
  | opening {params : Json} {uri text : Text} (hstarted : server.initialized = true)
      (huri : params.path? ["textDocument", "uri"] = some (.str uri))
      (hvalid : Uri.isValid uri = true)
      (htext : params.path? ["textDocument", "text"] = some (.str text)) :
      Asks server (.notification "textDocument/didOpen" (some params)) (.put uri text)
  | change {params : Json} {uri text : Text} (hstarted : server.initialized = true)
      (huri : params.path? ["textDocument", "uri"] = some (.str uri))
      (hvalid : Uri.isValid uri = true) (htext : Sync.ChangedTo params text) :
      Asks server (.notification "textDocument/didChange" (some params)) (.put uri text)
  | closing {params : Json} {uri : Text} (hstarted : server.initialized = true)
      (huri : params.path? ["textDocument", "uri"] = some (.str uri))
      (hvalid : Uri.isValid uri = true) (hopen : server.documents.contains uri = true) :
      Asks server (.notification "textDocument/didClose" (some params)) (.close uri)

theorem edit?_of_initialized {server : Server} (h : server.initialized = true) (params : Json) :
    server.edit? "textDocument/didOpen" params =
        (Sync.opened? params).map (fun (uri, text) => .put uri text) ∧
      server.edit? "textDocument/didChange" params =
        (Sync.changed? params).map (fun (uri, text) => .put uri text) ∧
      server.edit? "textDocument/didClose" params =
        (Sync.closed? server.documents params).map .close := by
  simp [edit?, h]

/-- Parameters that are left out name no document. -/
theorem edit?_empty (server : Server) (method : Text) :
    server.edit? method (.obj []) = none := by
  have huri : Sync.documentUri? (.obj []) = none := rfl
  simp [edit?, Sync.opened?, Sync.changed?, Sync.closed?, huri]

/-- A notification asks for the edit that the server finds in it. -/
theorem asks_of_edit? {server : Server} {method : Text} {params : Option Json} {edit : Edit}
    (h : server.edit? method (Dispatcher.handlerParams params) = some edit) :
    server.Asks (.notification method params) edit := by
  have hstarted : server.initialized = true := initialized_of_edit? h
  cases params with
  | none => cases (server.edit?_empty method).symm.trans h
  | some params =>
      obtain ⟨hopening, hchange, hclosing⟩ := edit?_of_initialized hstarted params
      simp only [Dispatcher.handlerParams, Option.getD_some] at h
      by_cases hopen : method = "textDocument/didOpen"
      · subst hopen
        obtain ⟨⟨uri, text⟩, hopened, rfl⟩ := Option.map_eq_some_iff.mp (hopening ▸ h)
        obtain ⟨huri, htext⟩ := Sync.opened?_eq_some_iff.mp hopened
        obtain ⟨hpath, hvalid⟩ := Sync.uri?_eq_some_iff.mp huri
        exact .opening hstarted hpath hvalid (Sync.documentText?_eq_some_iff.mp htext)
      by_cases hother : method = "textDocument/didChange"
      · subst hother
        obtain ⟨⟨uri, text⟩, hchanged, rfl⟩ := Option.map_eq_some_iff.mp (hchange ▸ h)
        obtain ⟨huri, htext⟩ := Sync.changed?_eq_some_iff.mp hchanged
        obtain ⟨hpath, hvalid⟩ := Sync.uri?_eq_some_iff.mp huri
        exact .change hstarted hpath hvalid (Sync.changedText?_eq_some_iff.mp htext)
      by_cases hclose : method = "textDocument/didClose"
      · subst hclose
        obtain ⟨uri, hclosed, rfl⟩ := Option.map_eq_some_iff.mp (hclosing ▸ h)
        obtain ⟨huri, hcontains⟩ := Sync.closed?_eq_some_iff.mp hclosed
        obtain ⟨hpath, hvalid⟩ := Sync.uri?_eq_some_iff.mp huri
        exact .closing hstarted hpath hvalid hcontains
      · rw [edit?_eq_none hopen hother hclose] at h
        cases h

/-- The server finds the edit that a message asks for. -/
theorem Asks.move? {server : Server} {message : Message} {edit : Edit}
    (h : server.Asks message edit) : server.move? message = some (.edit edit) := by
  cases h with
  | @opening params uri text hstarted huri hvalid htext =>
      have hopened : Sync.opened? params = some (uri, text) :=
        Sync.opened?_eq_some_iff.mpr ⟨Sync.uri?_eq_some_iff.mpr ⟨huri, hvalid⟩,
          Sync.documentText?_eq_some_iff.mpr htext⟩
      simp [Server.move?, Dispatcher.handlerParams, (edit?_of_initialized hstarted params).1,
        hopened]
  | @change params uri text hstarted huri hvalid htext =>
      have hchanged : Sync.changed? params = some (uri, text) :=
        Sync.changed?_eq_some_iff.mpr ⟨Sync.uri?_eq_some_iff.mpr ⟨huri, hvalid⟩,
          Sync.changedText?_eq_some_iff.mpr htext⟩
      simp [Server.move?, Dispatcher.handlerParams, (edit?_of_initialized hstarted params).2.1,
        hchanged]
  | @closing params uri hstarted huri hvalid hopen =>
      have hclosed : Sync.closed? server.documents params = some uri :=
        Sync.closed?_eq_some_iff.mpr ⟨Sync.uri?_eq_some_iff.mpr ⟨huri, hvalid⟩, hopen⟩
      simp [Server.move?, Dispatcher.handlerParams, (edit?_of_initialized hstarted params).2.2,
        hclosed]

/-- The server finds in a message exactly the edit that it asks for. -/
theorem move?_eq_edit_iff {server : Server} {message : Message} {edit : Edit} :
    server.move? message = some (.edit edit) ↔ server.Asks message edit := by
  refine ⟨fun h => ?_, Asks.move?⟩
  cases message with
  | request id method params =>
      rw [move?] at h
      split at h
      · split at h <;> cases h
      · split at h <;> cases h
  | notification method params =>
      rw [move?] at h
      split at h
      · cases h
      obtain ⟨edit', hedit, hsame⟩ := Option.map_eq_some_iff.mp h
      cases hsame
      exact asks_of_edit? hedit
  | response id result error => cases h
  | invalid defect id => cases h

end Server

/-- What an edit does to the list of documents: the text of an open document is
replaced in its place, another document goes last, and a document that is closed is
taken out. Everything else stays as and where it is. -/
inductive Edit.Effect : Edit → List (Text × Text) → List (Text × Text) → Prop
  | replace (before after : List (Text × Text)) (uri old text : Text) :
      Effect (.put uri text) (before ++ (uri, old) :: after) (before ++ (uri, text) :: after)
  | append {entries : List (Text × Text)} {uri : Text}
      (hnew : uri ∉ entries.map Prod.fst) (text : Text) :
      Effect (.put uri text) entries (entries ++ [(uri, text)])
  | remove (before after : List (Text × Text)) (uri old : Text) :
      Effect (.close uri) (before ++ (uri, old) :: after) (before ++ after)

theorem Edit.diagnostics_put (uri text : Text) :
    (Edit.put uri text).diagnostics = Diagnostic.ofText text := rfl

theorem Edit.effect_put (store : Store) (uri text : Text) :
    (Edit.put uri text).Effect store.entries (store.put uri text).entries := by
  by_cases hknown : uri ∈ store.entries.map Prod.fst
  · obtain ⟨before, old, after, hentries, hinsert⟩ := OrderedMap.insert_of_mem hknown text
    rw [Store.entries_put, hinsert, hentries]
    exact .replace before after uri old text
  · rw [Store.entries_put, OrderedMap.insert_of_not_mem hknown]
    exact .append hknown text

theorem Edit.effect_close {store : Store} {uri : Text} (h : store.contains uri = true) :
    (Edit.close uri).Effect store.entries (store.erase uri).entries := by
  obtain ⟨before, old, after, hentries, herase⟩ :=
    OrderedMap.erase_of_mem store.distinct (Store.contains_iff_mem.mp h)
  rw [Store.entries_erase, herase, hentries]
  exact .remove before after uri old

namespace Server

/-- An edit that a message asks for has its effect. -/
theorem Asks.effect {server : Server} {message : Message} {edit : Edit}
    (h : server.Asks message edit) :
    edit.Effect server.documents.entries (edit.apply server.documents).entries := by
  cases h with
  | opening => exact Edit.effect_put ..
  | change => exact Edit.effect_put ..
  | closing _ _ _ hopen => exact Edit.effect_close hopen

/-- What is announced is a notification that carries the diagnostics of a document. -/
theorem classify_announcement (announcement : Announcement) :
    Message.classify announcement.packet.value =
      .notification "textDocument/publishDiagnostics"
        (some (.obj [("uri", .str announcement.publication.uri), ("diagnostics",
          .arr (announcement.publication.diagnostics.map Diagnostic.toJson))])) := by
  rw [announcement.built]
  rfl

variable [NestingLimits]

/-- Only an edit changes the documents or is announced. -/
theorem perform_of_ne_edit {move : Move} (h : ∀ edit, move ≠ .edit edit) (server : Server) :
    (server.perform move).1.documents = server.documents ∧ (server.perform move).2 = [] := by
  cases move with
  | edit edit => exact absurd rfl (h edit)
  | start | shutdown | exit => exact ⟨rfl, rfl⟩

theorem follow_of_not_asks {server : Server} {message : Message}
    (h : ∀ edit, ¬server.Asks message edit) :
    (server.follow message).1.documents = server.documents ∧ (server.follow message).2 = [] := by
  rw [follow]
  cases hmove : server.move? message with
  | none => exact ⟨rfl, rfl⟩
  | some move =>
      refine perform_of_ne_edit ?_ server
      rintro edit rfl
      exact h edit (move?_eq_edit_iff.mp hmove)

/-- Documents change by edits only, and one at a time, whatever the state of the server. If a body
is a message that asks for an edit, then the list of documents changes as the edit says and the
rest of the state does not change; if announcements are on, exactly one is sent, provided that
it can be sent, and it is for the edited document. If it asks for no edit, then no document changes
and nothing is sent. -/
theorem documents_change_by_edits (server : Server) (content : Text) :
    let handled := server.handle content
    (∀ message edit, messageOf? content = some message → server.Asks message edit →
      edit.Effect server.documents.entries handled.state.documents.entries ∧
      handled.state = { server with documents := handled.state.documents } ∧
      (server.settings.publishDiagnostics = false → handled.sent = []) ∧
      (server.settings.publishDiagnostics = true →
        ((∃ announcement, handled.sent = [announcement]) ↔
          Publication.Sendable ⟨edit.uri, edit.diagnostics⟩) ∧
        (¬Publication.Sendable ⟨edit.uri, edit.diagnostics⟩ → handled.sent = [])) ∧
      ∀ announcement ∈ handled.sent, Message.classify announcement.packet.value =
        .notification "textDocument/publishDiagnostics" (some (.obj [("uri", .str edit.uri),
          ("diagnostics", .arr (edit.diagnostics.map Diagnostic.toJson))]))) ∧
    ((∀ message edit, messageOf? content = some message → ¬server.Asks message edit) →
      handled.state.documents = server.documents ∧ handled.sent = []) := by
  intro handled
  have heffect : (handled.state, handled.sent) =
      ((messageOf? content).map server.follow).getD (server, []) := handle_effect server content
  constructor
  · intro message edit hmessage hasks
    rw [hmessage, Option.map_some, Option.getD_some, follow, hasks.move?] at heffect
    obtain ⟨hstate, hsent⟩ := Prod.mk.inj heffect
    refine ⟨?_, ?_, ?_, ?_, ?_⟩
    · rw [hstate]
      exact hasks.effect
    · rw [hstate]
    · intro hoff
      rw [hsent, announce, hoff]
      rfl
    · intro hon
      rw [hsent]
      obtain ⟨hsendable, announcement, -, hannounce⟩ | ⟨hunsendable, hannounce⟩ :=
        announce_cases ⟨edit.uri, edit.diagnostics⟩ hon
      · rw [hannounce]
        exact ⟨iff_of_true ⟨announcement, rfl⟩ hsendable, fun h => absurd hsendable h⟩
      · rw [hannounce]
        refine ⟨iff_of_false ?_ hunsendable, fun _ => rfl⟩
        rintro ⟨announcement, ⟨⟩⟩
    · intro announcement hmem
      rw [hsent] at hmem
      rw [classify_announcement, publication_of_mem_announce hmem]
  · intro hnone
    cases hmessage : messageOf? content with
    | none =>
        rw [hmessage] at heffect
        obtain ⟨hstate, hsent⟩ := Prod.mk.inj heffect
        exact ⟨by rw [hstate], hsent⟩
    | some message =>
        rw [hmessage, Option.map_some, Option.getD_some] at heffect
        obtain ⟨hdocuments, hsent⟩ := follow_of_not_asks fun edit => hnone message edit hmessage
        rw [← heffect] at hdocuments hsent
        exact ⟨hdocuments, hsent⟩

omit [NestingLimits] in
/-- A change of the first of two open documents comes with an older text beside the name of the
document, which holds half of a surrogate pair. The document keeps its place and has the text of
the last change, and nothing is announced. -/
theorem change_unannounced :
    let uri : Text := ⟨Text.toList "file:///" ++ [.half 0]⟩
    let server : Server :=
      { initialized := true, documents := .ofList [(uri, ""), ("file:///b", "b")] }
    let content : Text :=
      "\x7b\"jsonrpc\": \"2.0\", \"method\": \"textDocument/didChange\", \"params\": " ++
        "\x7b\"contentChanges\": [null, \x7b\"text\": \"new\"\x7d], \"textDocument\": " ++
          "\x7b\"uri\": \"file:///\\ud800\", \"text\": \"old\"\x7d\x7d\x7d"
    letI : NestingLimits := .usual
    let handled := server.handle content
    (Edit.put uri "new").Effect server.documents.entries handled.state.documents.entries ∧
      handled.sent = [] := by
  intro uri server content
  let _ : NestingLimits := .usual
  intro handled
  let params : Json := .obj [
    ("contentChanges", .arr [.null, .obj [("text", .str "new")]]),
    ("textDocument", .obj [("uri", .str uri), ("text", .str "old")])]
  have hnull (rest : List CodePoint) :
      Json.tokens (.char 'n' :: .char 'u' :: .char 'l' :: .char 'l' :: rest) =
        .scalar .null :: Json.tokens rest :=
    Json.tokens_null rest
  have htokens : Json.tokens content.toList = [.openObject, .text "jsonrpc", .colon, .text "2.0",
      .comma, .text "method", .colon, .text "textDocument/didChange", .comma, .text "params",
      .colon, .openObject, .text "contentChanges", .colon, .openArray, .scalar .null, .comma,
      .openObject, .text "text", .colon, .text "new", .closeObject, .closeArray, .comma,
      .text "textDocument", .colon, .openObject, .text "uri", .colon, .text uri, .comma,
      .text "text", .colon, .text "old", .closeObject, .closeObject, .closeObject] := by
    simp [content, uri, Text.ofString, hnull]
  have hread : Json.read NestingLimits.reading content = .ok (.obj [("jsonrpc", .str "2.0"),
      ("method", .str "textDocument/didChange"), ("params", params)]) :=
    Json.read_of_tokens htokens rfl
  have hmessage : messageOf? content =
      some (.notification "textDocument/didChange" (some params)) :=
    messageOf?_of_read hread
  have htext : Sync.LastChange params "new" :=
    ⟨[.null, .obj [("text", .str "new")]], .obj [("text", .str "new")], rfl, rfl, rfl⟩
  have hasks : server.Asks (.notification "textDocument/didChange" (some params))
      (.put uri "new") := .change rfl rfl (by decide) (Or.inl htext)
  obtain ⟨heffect, -, -, hannounced, -⟩ :=
    (documents_change_by_edits server content).1 _ _ hmessage hasks
  refine ⟨heffect, (hannounced rfl).2 fun hsendable => ?_⟩
  cases hsendable.whole

end Server

end LanguageServer
