/-
# Conversations

What a server does over a sequence of bodies. Among all messages only four kinds
change a session: the first request to start it, the request to shut down, the
notification to exit, and an edit of the open documents (`Move`). Everything else
is answered or ignored with the session as it was. `handleValue_effect` states
this once for all handlers, and an invariant of a conversation then needs one case
for each kind of move (`Conversation.after_induction`).

Replies are not followed here; `Proofs.Dispatch` says who is answered.
-/

import LanguageServer.Proofs.Dispatch
import LanguageServer.Server.Basic
import Mathlib.Data.List.Induction

namespace LanguageServer

namespace Rpc.Dispatcher

variable {σ ν : Type}

/-- Noticing a notification does to the state, and sends, what its handler does. -/
theorem notice_effect (dispatcher : Dispatcher σ ν) (state : σ) (method : Text)
    (params : Option Json) :
    ((dispatcher.notice state method params).state, (dispatcher.notice state method params).sent) =
      match dispatcher.notification? method with
      | none => (state, [])
      | some handler =>
          ((handler (handlerParams params) state).state,
            (handler (handlerParams params) state).sent) := by
  rw [notice]
  cases dispatcher.notification? method <;> rfl

variable [NestingLimits]

/-- Answering a request does to the state, and sends, what its handler does. -/
theorem answer_effect (dispatcher : Dispatcher σ ν) (state : σ) (id : Id) (method : Text)
    (params : Option Json) :
    ((dispatcher.answer state id method params).state,
      (dispatcher.answer state id method params).sent) =
      match dispatcher.request? method with
      | none => (state, [])
      | some handler =>
          ((handler (handlerParams params) state).state,
            (handler (handlerParams params) state).sent) := by
  rw [answer]
  cases dispatcher.request? method <;> rfl

end Rpc.Dispatcher

/-- The settings after the client's options, if it has given any. -/
def Settings.negotiated (settings : Settings) : Option Json → Settings
  | none => settings
  | some options => settings.withOptions options

/-- An edit of the open documents: setting the text of one, or closing one. -/
inductive Edit
  | put (uri text : Text)
  | close (uri : Text)
  deriving DecidableEq, Repr

namespace Edit

/-- The document that an edit is about. -/
def uri : Edit → Text
  | .put uri _ => uri
  | .close uri => uri

/-- The text of the document after an edit, if it is open then. -/
def text? : Edit → Option Text
  | .put _ text => some text
  | .close _ => none

/-- Applies an edit. -/
def apply (store : Store) : Edit → Store
  | .put uri text => store.put uri text
  | .close uri => store.erase uri

/-- The diagnostics of the document after an edit; a closed document has none. -/
def diagnostics (edit : Edit) : List Diagnostic :=
  (edit.text?.map Diagnostic.ofText).getD []

end Edit

/-- What a message may change in a session. -/
inductive Move
  | start (options : Json)
  | shutdown
  | exit
  | edit (edit : Edit)

namespace Server

open Rpc

/-- The edit that a notification asks for. Only a session that has started follows the
documents, and only an open document can be closed. -/
def edit? (server : Server) (method : Text) (params : Json) : Option Edit :=
  if !server.initialized then none
  else if method = "textDocument/didOpen" then
    (Sync.opened? params).map fun (uri, text) => .put uri text
  else if method = "textDocument/didChange" then
    (Sync.changed? params).map fun (uri, text) => .put uri text
  else if method = "textDocument/didClose" then (Sync.closed? server.documents params).map .close
  else none

/-- The options that come with a request to start the session. -/
def startOptions (params : Json) : Json :=
  Json.orNull (params.path? ["initializationOptions"])

/-- The options that come with a message, if it is a request to start the session. -/
def startOptions? : Message → Option Json
  | .request _ method params =>
      if method = "initialize" then some (startOptions (Dispatcher.handlerParams params)) else none
  | _ => none

/-- What a message changes in a session, if anything. A session that has started is not
started again. -/
def move? (server : Server) : Message → Option Move
  | .request _ method params =>
      if method = "initialize" then
        if server.initialized then none
        else some (.start (startOptions (Dispatcher.handlerParams params)))
      else if method = "shutdown" then some .shutdown
      else none
  | .notification method params =>
      if method = "exit" then some .exit
      else (server.edit? method (Dispatcher.handlerParams params)).map .edit
  | _ => none

/-- A notification that is not about a document asks for no edit. -/
theorem edit?_eq_none {method : Text} (hopen : method ≠ "textDocument/didOpen")
    (hchange : method ≠ "textDocument/didChange") (hclose : method ≠ "textDocument/didClose")
    (server : Server) (params : Json) : server.edit? method params = none := by
  rw [edit?, if_neg hopen, if_neg hchange, if_neg hclose, ite_self]

/-- When a move can be made: a session is started once, and follows the documents only
from then on. -/
def Allows (server : Server) : Move → Prop
  | .start _ => server.initialized = false
  | .edit _ => server.initialized = true
  | .shutdown | .exit => True

theorem initialized_of_edit? {server : Server} {method : Text} {params : Json} {edit : Edit}
    (h : server.edit? method params = some edit) : server.initialized = true := by
  rw [edit?] at h
  split at h
  · cases h
  · next hinitialized => simpa using hinitialized

theorem allows_of_move? {server : Server} {message : Message} {move : Move}
    (h : server.move? message = some move) : server.Allows move := by
  cases message with
  | request id method params =>
      simp only [move?] at h
      split at h
      · split at h
        · cases h
        · next hinitialized =>
            cases h
            exact eq_false_of_ne_true hinitialized
      · split at h
        · cases h
          trivial
        · cases h
  | notification method params =>
      simp only [move?] at h
      split at h
      · cases h
        trivial
      · obtain ⟨edit, hedit, rfl⟩ := Option.map_eq_some_iff.mp h
        exact initialized_of_edit? hedit
  | response id result error => cases h
  | invalid defect id => cases h

/-- A request to start the session starts it unless that has happened before. -/
theorem move?_of_startOptions? {message : Message} {options : Json}
    (h : startOptions? message = some options) (server : Server) :
    server.move? message = if server.initialized then none else some (.start options) := by
  cases message with
  | request id method params =>
      rw [startOptions?] at h
      split at h
      · next hmethod =>
          cases h
          rw [move?, if_pos hmethod]
      · cases h
  | notification | response | invalid => cases h

/-- No other message starts it. -/
theorem move?_ne_start {message : Message} (h : startOptions? message = none) (server : Server)
    (options : Json) : server.move? message ≠ some (.start options) := by
  cases message with
  | request id method params =>
      rw [startOptions?] at h
      split at h
      · cases h
      · next hmethod =>
          rw [move?, if_neg hmethod]
          split <;> simp
  | notification method params =>
      rw [move?]
      split
      · simp
      · simp [Option.map_eq_some_iff]
  | response | invalid => simp [move?]

/-- A question never changes the session. -/
theorem onFeature_effect (request : FeatureRequest) (params : Json) (server : Server) :
    ((onFeature request params server).state, (onFeature request params server).sent) =
      (server, []) := by
  rw [onFeature]
  split
  · rfl
  split
  · rfl
  split <;> rfl

variable [NestingLimits]

/-- The announcement of a publication, if it is not turned off and can be built. -/
def announce (server : Server) (publication : Publication) : List Announcement :=
  if server.settings.publishDiagnostics then (Announcement.build publication).toOption.toList
  else []

/-- The session after a move, and what it announces. -/
def perform (server : Server) : Move → Server × List Announcement
  | .start options =>
      ({ server with settings := server.settings.withOptions options, initialized := true }, [])
  | .shutdown => ({ server with shutdownRequested := true }, [])
  | .exit => ({ server with exitCode := some (if server.shutdownRequested then 0 else 1) }, [])
  | .edit edit =>
      ({ server with documents := edit.apply server.documents },
        server.announce ⟨edit.uri, edit.diagnostics⟩)

/-- The session after a move, if there is one, and what it announces. -/
def performAny (server : Server) : Option Move → Server × List Announcement
  | none => (server, [])
  | some move => server.perform move

/-- The session after a message, and what it announces. -/
def follow (server : Server) (message : Message) : Server × List Announcement :=
  server.performAny (server.move? message)

/-- Publishing leaves the session alone. -/
theorem publish_effect (server : Server) (uri : Text) (diagnostics : List Diagnostic)
    (log : List Text) :
    ((publish server uri diagnostics log).state, (publish server uri diagnostics log).sent) =
      (server, server.announce ⟨uri, diagnostics⟩) := by
  rw [publish, announce]
  split
  · cases Announcement.build ⟨uri, diagnostics⟩ <;> rfl
  · rfl

/-- Acting on a document makes an edit if the session has started and the action makes
it; a notification that names no document must not ask for any. -/
theorem withDocument_effect {params : Json} {server : Server} {act : Text → Effect}
    {edit : Option Edit} (hnone : Sync.uri? params = none → edit = none)
    (hact : ∀ uri, Sync.uri? params = some uri →
      ((act uri).state, (act uri).sent) = server.performAny (edit.map .edit)) :
    ((withDocument params server act).state, (withDocument params server act).sent) =
      server.performAny ((if !server.initialized then none else edit).map .edit) := by
  rw [withDocument]
  split
  · rfl
  · cases huri : Sync.uri? params with
    | none =>
        rw [hnone huri]
        rfl
    | some uri => exact hact uri huri

theorem onOpen_effect (params : Json) (server : Server) :
    ((onOpen params server).state, (onOpen params server).sent) =
      server.performAny ((server.edit? "textDocument/didOpen" params).map .edit) := by
  rw [onOpen, edit?, if_pos rfl]
  apply withDocument_effect
  · intro huri
    simp [Sync.opened?, Sync.documentUri?_eq_uri?, huri]
  · intro uri huri
    simp only [Sync.opened?, Sync.documentUri?_eq_uri?, huri]
    cases Sync.documentText? params with
    | none => rfl
    | some text => exact publish_effect _ uri _ _

theorem onChange_effect (params : Json) (server : Server) :
    ((onChange params server).state, (onChange params server).sent) =
      server.performAny ((server.edit? "textDocument/didChange" params).map .edit) := by
  have hother : ("textDocument/didChange" : Text) ≠ "textDocument/didOpen" := by decide
  rw [onChange, edit?, if_neg hother, if_pos rfl]
  apply withDocument_effect
  · intro huri
    simp [Sync.changed?, Sync.documentUri?_eq_uri?, huri]
  · intro uri huri
    simp only [Sync.changed?, Sync.documentUri?_eq_uri?, huri]
    cases Sync.changedText? params with
    | none => rfl
    | some text => exact publish_effect _ uri _ _

theorem onClose_effect (params : Json) (server : Server) :
    ((onClose params server).state, (onClose params server).sent) =
      server.performAny ((server.edit? "textDocument/didClose" params).map .edit) := by
  have hopen : ("textDocument/didClose" : Text) ≠ "textDocument/didOpen" := by decide
  have hchange : ("textDocument/didClose" : Text) ≠ "textDocument/didChange" := by decide
  rw [onClose, edit?, if_neg hopen, if_neg hchange, if_pos rfl]
  apply withDocument_effect
  · intro huri
    simp [Sync.closed?, Sync.documentUri?_eq_uri?, huri]
  · intro uri huri
    simp only [Sync.closed?, Sync.documentUri?_eq_uri?, huri, Option.filter_some]
    cases server.documents.contains uri with
    | false => rfl
    | true => exact publish_effect _ uri _ _

theorem answer_follow (server : Server) (id : Id) (method : Text) (params : Option Json) :
    ((dispatcher.answer server id method params).state,
      (dispatcher.answer server id method params).sent) =
      server.follow (.request id method params) := by
  rw [Dispatcher.answer_effect, follow, move?]
  by_cases hstart : method = "initialize"
  · have hhandler : dispatcher.request? method = some onStart := if_pos hstart
    rw [hhandler, if_pos hstart]
    simp only [onStart]
    cases hinitialized : server.initialized <;> rfl
  by_cases hshutdown : method = "shutdown"
  · have hhandler : dispatcher.request? method = some onShutdown := by
      simp [dispatcher, request?, hshutdown]
    rw [hhandler, if_neg hstart, if_pos hshutdown]
    rfl
  · have hhandler : dispatcher.request? method =
        (FeatureRequest.ofMethod? method).map onFeature := by
      simp [dispatcher, request?, hstart, hshutdown]
    rw [hhandler, if_neg hstart, if_neg hshutdown]
    cases FeatureRequest.ofMethod? method with
    | none => rfl
    | some request => exact onFeature_effect request _ server

theorem notice_follow (server : Server) (method : Text) (params : Option Json) :
    ((dispatcher.notice server method params).state,
      (dispatcher.notice server method params).sent) =
      server.follow (.notification method params) := by
  rw [Dispatcher.notice_effect, follow, move?]
  by_cases hexit : method = "exit"
  · subst hexit
    rfl
  rw [if_neg hexit]
  by_cases hopen : method = "textDocument/didOpen"
  · subst hopen
    exact onOpen_effect _ server
  by_cases hchange : method = "textDocument/didChange"
  · subst hchange
    exact onChange_effect _ server
  by_cases hclose : method = "textDocument/didClose"
  · subst hclose
    exact onClose_effect _ server
  rw [edit?_eq_none hopen hchange hclose]
  -- What is left are the notification of readiness and the unknown ones.
  simp only [dispatcher, notification?, if_neg hexit, if_neg hopen, if_neg hchange, if_neg hclose]
  split
  · rfl
  · next handler hhandler =>
      split at hhandler
      · cases hhandler
        rfl
      · cases hhandler

/-- Handling a value changes the session, and announces, what its message says. -/
theorem handleValue_effect (server : Server) (value : Json) :
    ((dispatcher.handleValue server value).state, (dispatcher.handleValue server value).sent) =
      server.follow (Message.classify value) := by
  rw [Dispatcher.handleValue]
  cases Message.classify value with
  | request id method params => exact answer_follow server id method params
  | notification method params => exact notice_follow server method params
  | response id result error => rfl
  | invalid defect id => rfl

theorem handleBody_effect (server : Server) (value : Json) :
    ((dispatcher.handleBody server value).state, (dispatcher.handleBody server value).sent) =
      server.follow (Message.classify value) := by
  by_cases hnull : value = .null
  · subst hnull
    rfl
  · rw [Dispatcher.handleBody_of_ne_null dispatcher server hnull]
    exact handleValue_effect server value

/-- Only a move that starts the session has to do with its settings. -/
theorem perform_of_ne_start {move : Move} (h : ∀ options, move ≠ .start options) (server : Server) :
    (server.perform move).1.initialized = server.initialized ∧
      (server.perform move).1.settings = server.settings := by
  cases move with
  | start options => exact absurd rfl (h options)
  | shutdown | exit | edit => exact ⟨rfl, rfl⟩

/-- Only the first request to start the session starts it and sets its settings. -/
theorem start_follow (server : Server) (message : Message) :
    (server.follow message).1.initialized =
        (server.initialized || (startOptions? message).isSome) ∧
      (server.follow message).1.settings =
        if server.initialized then server.settings
        else server.settings.negotiated (startOptions? message) := by
  rw [follow]
  cases hoptions : startOptions? message with
  | some options =>
      rw [move?_of_startOptions? hoptions]
      cases hinitialized : server.initialized with
      | true => simp [performAny, hinitialized]
      | false => simp [performAny, perform, Settings.negotiated]
  | none =>
      have hsettings : (if server.initialized then server.settings
          else server.settings.negotiated none) = server.settings := ite_self _
      rw [Option.isSome_none, Bool.or_false, hsettings]
      cases hmove : server.move? message with
      | none => exact ⟨rfl, rfl⟩
      | some move =>
          refine perform_of_ne_start ?_ server
          rintro options rfl
          exact move?_ne_start hoptions server options hmove

end Server

variable [NestingLimits]

/-- The message that a body is. A body that cannot be read is none. -/
def messageOf? (content : Text) : Option Rpc.Message :=
  (Rpc.Message.readBody content).toOption.map Rpc.Message.classify

theorem messageOf?_eq_some_iff {content : Text} {message : Rpc.Message} :
    messageOf? content = some message ↔
      ∃ value, Rpc.Message.readBody content = .ok value ∧ Rpc.Message.classify value = message := by
  rw [messageOf?]
  cases Rpc.Message.readBody content <;> simp [Except.toOption]

theorem messageOf?_of_read {content : Text} {value : Json}
    (h : Json.read NestingLimits.reading content = .ok value) :
    messageOf? content = some (Rpc.Message.classify value) :=
  messageOf?_eq_some_iff.mpr ⟨value, Rpc.Message.readBody_of_read h, rfl⟩

/-- The text of a plain value is the message that the value is. -/
theorem messageOf?_render {value : Json} {depth : Nat} (h : value.Plain depth)
    (hroom : depth ≤ NestingLimits.reading) :
    messageOf? value.render = some (Rpc.Message.classify value) :=
  messageOf?_of_read (Json.read_render h hroom)

/-- A body that is a message is followed as such, and any other one is ignored. -/
theorem Server.handle_effect (server : Server) (content : Text) :
    ((server.handle content).state, (server.handle content).sent) =
      ((messageOf? content).map server.follow).getD (server, []) := by
  rw [handle, messageOf?]
  cases hread : Rpc.Message.readBody content with
  | error fault =>
      rw [Rpc.Dispatcher.handle_of_readBody_error dispatcher server hread]
      rfl
  | ok value =>
      rw [Rpc.Dispatcher.handle_of_readBody dispatcher server hread]
      exact handleBody_effect server value

/-- How far a conversation has come: the session, and everything it has announced. -/
structure Conversation where
  server : Server
  sent : List Announcement := []

namespace Conversation

/-- The conversation after one more body. -/
def hear (conversation : Conversation) (content : Text) : Conversation :=
  let handled := conversation.server.handle content
  ⟨handled.state, conversation.sent ++ handled.sent⟩

/-- The conversation that a fresh server has had after some bodies. -/
def after (settings : Settings) (contents : List Text) : Conversation :=
  contents.foldl hear { server := { settings } }

/-- The conversation after a move. -/
def perform (conversation : Conversation) (move : Move) : Conversation :=
  ⟨(conversation.server.perform move).1,
    conversation.sent ++ (conversation.server.perform move).2⟩

theorem after_concat (settings : Settings) (contents : List Text) (content : Text) :
    after settings (contents ++ [content]) = (after settings contents).hear content := by
  simp only [after, List.foldl_append, List.foldl_cons, List.foldl_nil]

/-- The conversation after a message. -/
def follow (conversation : Conversation) (message : Rpc.Message) : Conversation :=
  ⟨(conversation.server.follow message).1,
    conversation.sent ++ (conversation.server.follow message).2⟩

theorem follow_eq (conversation : Conversation) (message : Rpc.Message) :
    conversation.follow message =
      match conversation.server.move? message with
      | none => conversation
      | some move => conversation.perform move := by
  rw [follow, Server.follow]
  cases conversation.server.move? message with
  | none => simp only [Server.performAny, List.append_nil]
  | some move => rfl

/-- A body acts as the message that it is, and nothing else happens. -/
theorem hear_eq (conversation : Conversation) (content : Text) :
    conversation.hear content =
      ((messageOf? content).map conversation.follow).getD conversation := by
  have heffect := conversation.server.handle_effect content
  rw [hear]
  cases hmessage : messageOf? content with
  | none =>
      rw [hmessage, Option.map_none, Option.getD_none] at heffect
      obtain ⟨hstate, hsent⟩ := Prod.mk.inj heffect
      rw [hstate, hsent, List.append_nil, Option.map_none, Option.getD_none]
  | some message =>
      rw [hmessage, Option.map_some, Option.getD_some] at heffect
      rw [Option.map_some, Option.getD_some, follow, ← heffect]

/-- What holds of a fresh server and is kept by every move that can be made holds
throughout every conversation. -/
theorem after_induction {P : Conversation → Prop} {settings : Settings}
    (hfresh : P { server := { settings } })
    (hmove : ∀ conversation move, conversation.server.Allows move → P conversation →
      P (conversation.perform move)) (contents : List Text) : P (after settings contents) := by
  induction contents using List.reverseRecOn with
  | nil => exact hfresh
  | append_singleton contents content ih =>
      rw [after_concat, hear_eq]
      cases messageOf? content with
      | none => exact ih
      | some message =>
          simp only [Option.map_some, Option.getD_some, follow_eq]
          split
          · exact ih
          · next move hmessage => exact hmove _ move (Server.allows_of_move? hmessage) ih

/-- The options of the first request to start the session among some bodies. -/
def startOptions? (contents : List Text) : Option Json :=
  contents.findSome? fun content => (messageOf? content).bind Server.startOptions?

theorem startOptions?_append (contents later : List Text) :
    startOptions? (contents ++ later) = (startOptions? contents).or (startOptions? later) :=
  List.findSome?_append

/-- The session runs with the options of the first request to start it, and has started
once that request has come. -/
theorem settings_after (settings : Settings) (contents : List Text) :
    (after settings contents).server.initialized = (startOptions? contents).isSome ∧
      (after settings contents).server.settings =
        settings.negotiated (startOptions? contents) := by
  induction contents using List.reverseRecOn with
  | nil => exact ⟨rfl, rfl⟩
  | append_singleton contents content ih =>
      obtain ⟨hinitialized, hsettings⟩ := ih
      have hsingle : startOptions? [content] = (messageOf? content).bind Server.startOptions? := by
        simp only [startOptions?, List.findSome?_singleton]
      rw [after_concat, hear_eq, startOptions?_append, hsingle]
      cases messageOf? content with
      | none => simpa using ⟨hinitialized, hsettings⟩
      | some message =>
          simp only [Option.map_some, Option.getD_some, follow, Option.bind_some]
          obtain ⟨hinitialized', hsettings'⟩ :=
            (after settings contents).server.start_follow message
          rw [hinitialized', hsettings', hinitialized, hsettings]
          cases startOptions? contents with
          | none => simp [Settings.negotiated]
          | some options => simp

end Conversation

end LanguageServer
