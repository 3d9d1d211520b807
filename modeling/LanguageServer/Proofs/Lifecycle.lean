/-
# The lifecycle of a session

How far a session has come is told by the messages it has heard and by nothing else:
whether it has started, whether a shutdown has been asked for, with which code it
exits, and whether it announces diagnostics (`Server.Lifecycle`). The order of the
messages matters twice: the settings are those of the first request to start the
session, and the exit code is the one found at the last notification to exit.

Each part is a law of one message (`_follow`), and what a run of messages does follows
by induction over them (`_follows`). Contents that cannot be read are no messages.
-/

import LanguageServer.Proofs.Conversation

namespace LanguageServer

open Rpc

namespace Rpc

namespace Message

/-- A request for the given method. -/
def isRequest (method : Text) : Message → Bool
  | .request _ method' _ => method' = method
  | _ => false

/-- A notification of the given method. -/
def isNotification (method : Text) : Message → Bool
  | .notification method' _ => method' = method
  | _ => false

end Message

/-- The code of the error that a reply holds. -/
def errorCode? (reply : Json) : Option Int :=
  (reply.object? "error").bind fun error => error.int? "code"

theorem errorCode?_refusal (id : Json) (failure : Failure) :
    errorCode? (refusal id failure) = some failure.code := rfl

end Rpc

namespace Server

theorem isSome_startOptions? (message : Message) :
    (startOptions? message).isSome = message.isRequest "initialize" := by
  cases message with
  | request id method params =>
      by_cases hmethod : method = "initialize" <;>
        simp [startOptions?, Message.isRequest, hmethod]
  | notification | response | invalid => rfl

/-- What a request to start the session says about announcing diagnostics. -/
def publishOption? : Message → Option Bool
  | .request _ _ params =>
      ((Dispatcher.handlerParams params).path? ["initializationOptions", "publishDiagnostics"]).bind
        Json.asBool?
  | _ => none

/-- The settings that a request to start the session leads to. -/
def settingsFrom (settings : Settings) (message : Message) : Settings :=
  { settings with
    publishDiagnostics := (publishOption? message).getD settings.publishDiagnostics }

theorem negotiated_startOptions? (settings : Settings) {message : Message}
    (h : message.isRequest "initialize" = true) :
    settings.negotiated (startOptions? message) = settingsFrom settings message := by
  cases message with
  | request id method params =>
      have hmethod : method = "initialize" := of_decide_eq_true h
      have hoptions : publishOption? (.request id method params) =
          ((startOptions (Dispatcher.handlerParams params)).field? "publishDiagnostics").bind
            Json.asBool? := by
        simp only [publishOption?, startOptions, Json.path?]
        cases (Dispatcher.handlerParams params).field? "initializationOptions" with
        | none => rfl
        | some options =>
            simp only [Option.bind_some, Json.orNull, Option.getD_some]
            cases options.field? "publishDiagnostics" <;> rfl
      rw [startOptions?, if_pos hmethod, Settings.negotiated, settingsFrom, hoptions,
        Settings.withOptions]
      cases ((startOptions (Dispatcher.handlerParams params)).field? "publishDiagnostics").bind
        Json.asBool? <;> rfl
  | notification | response | invalid => cases h

/-- What the messages that a session has heard say about it. -/
structure Lifecycle (settings : Settings) (heard : List Message) (server : Server) : Prop where
  /-- The session has started if a request to start it has come. -/
  initialized : server.initialized = heard.any (·.isRequest "initialize")
  shutdownRequested : server.shutdownRequested = heard.any (·.isRequest "shutdown")
  exitCode_none : server.exitCode = none ↔
    ∀ message ∈ heard, message.isNotification "exit" = false
  /-- The exit code tells whether a shutdown was asked for before the last notification to
  exit. -/
  exitCode_some : ∀ before exit later, heard = before ++ exit :: later →
    exit.isNotification "exit" = true →
    (∀ message ∈ later, message.isNotification "exit" = false) →
    server.exitCode = some (if before.any (·.isRequest "shutdown") then 0 else 1)
  /-- The settings are the initial ones with the options of the first request to start the
  session. -/
  settings : server.settings =
    match heard.find? (·.isRequest "initialize") with
    | some message => settingsFrom settings message
    | none => settings

/-- A question is not one of the requests about the session itself. -/
theorem method_ne (feature : FeatureRequest) :
    feature.method ≠ "initialize" ∧ feature.method ≠ "shutdown" := by
  cases feature <;> simp [FeatureRequest.method]

theorem ofMethod?_method (feature : FeatureRequest) :
    FeatureRequest.ofMethod? feature.method = some feature := by
  cases feature <;> simp [FeatureRequest.ofMethod?, FeatureRequest.all, FeatureRequest.method]

/-- The verdict on a question: it is too early before the session has started and too late after
a shutdown, and else it has an answer of its own, a result or the parameter it lacks. -/
def due (server : Server) (feature : FeatureRequest) (params : Option Json) : Verdict :=
  if !server.initialized then
    .error (ErrorCode.serverNotInitialized.failure "Server not initialized")
  else if server.shutdownRequested then
    .error (ErrorCode.invalidRequest.failure "Server is shutting down")
  else
    match feature.answer server.documents (Dispatcher.handlerParams params) with
    | .ok result => .ok result
    | .error missing => .error (ErrorCode.invalidParams.failure missing.message)

/-- A question comes to its verdict, and that is all it leads to. -/
theorem onFeature_eq (server : Server) (feature : FeatureRequest) (params : Option Json) :
    onFeature feature (Dispatcher.handlerParams params) server =
      { state := server, outcome := (server.due feature params).outcome } := by
  rw [onFeature, due]
  split
  · rfl
  split
  · rfl
  cases feature.answer server.documents (Dispatcher.handlerParams params) <;> rfl

/-- The code with which a verdict is replied, if it is a failure. -/
def verdictCode? : Verdict → Option Int
  | .ok _ => none
  | .error failure => some failure.code

theorem errorCode?_replyTo (id : Json) (verdict : Verdict) :
    errorCode? (replyTo id verdict) = verdictCode? verdict := by
  cases verdict <;> rfl

/-- The codes for a session in the wrong state are not among the answers of a question. -/
theorem verdictCode?_due (server : Server) (feature : FeatureRequest) (params : Option Json) :
    (verdictCode? (server.due feature params) = some (-32002) ↔ server.initialized = false) ∧
      (verdictCode? (server.due feature params) = some (-32600) ↔
        server.initialized = true ∧ server.shutdownRequested = true) := by
  rw [due]
  cases server.initialized with
  | false => simp [verdictCode?, ErrorCode.failure, ErrorCode.toInt]
  | true =>
      cases server.shutdownRequested with
      | true => simp [verdictCode?, ErrorCode.failure, ErrorCode.toInt]
      | false =>
          cases feature.answer server.documents (Dispatcher.handlerParams params) <;>
            simp [verdictCode?, ErrorCode.failure, ErrorCode.toInt]

variable [NestingLimits]

theorem initialized_follow (server : Server) (message : Message) :
    (server.follow message).1.initialized =
      (server.initialized || message.isRequest "initialize") := by
  rw [(server.start_follow message).1, isSome_startOptions?]

theorem settings_follow (server : Server) (message : Message) :
    (server.follow message).1.settings =
      if !server.initialized && message.isRequest "initialize" then
        settingsFrom server.settings message
      else server.settings := by
  rw [(server.start_follow message).2]
  cases hstart : message.isRequest "initialize" with
  | true =>
      rw [negotiated_startOptions? server.settings hstart]
      cases server.initialized <;> rfl
  | false =>
      have hnone : startOptions? message = none := by
        rw [← Option.not_isSome_iff_eq_none, isSome_startOptions?, hstart]
        exact Bool.false_ne_true
      rw [hnone, Bool.and_false]
      exact ite_self _

/-- What one message does to the last stretch of a session. -/
theorem ending_follow (server : Server) (message : Message) :
    (server.follow message).1.shutdownRequested =
        (server.shutdownRequested || message.isRequest "shutdown") ∧
      (server.follow message).1.exitCode =
        if message.isNotification "exit" then some (if server.shutdownRequested then 0 else 1)
        else server.exitCode := by
  rw [follow]
  cases message with
  | request id method params =>
      by_cases hstart : method = "initialize"
      · subst hstart
        cases hinitialized : server.initialized <;>
          simp [move?, performAny, perform, hinitialized, Message.isRequest,
            Message.isNotification]
      by_cases hshutdown : method = "shutdown"
      · subst hshutdown
        simp [move?, performAny, perform, Message.isRequest, Message.isNotification]
      · simp [move?, performAny, hstart, hshutdown, Message.isRequest, Message.isNotification]
  | notification method params =>
      by_cases hexit : method = "exit"
      · subst hexit
        simp [move?, performAny, perform, Message.isRequest, Message.isNotification]
      · cases hedit : server.edit? method (Dispatcher.handlerParams params) <;>
          simp [move?, performAny, perform, hexit, hedit, Message.isRequest,
            Message.isNotification]
  | response | invalid =>
      simp [move?, performAny, Message.isRequest, Message.isNotification]

theorem shutdownRequested_follow (server : Server) (message : Message) :
    (server.follow message).1.shutdownRequested =
      (server.shutdownRequested || message.isRequest "shutdown") :=
  (server.ending_follow message).1

theorem exitCode_follow (server : Server) (message : Message) :
    (server.follow message).1.exitCode =
      if message.isNotification "exit" then some (if server.shutdownRequested then 0 else 1)
      else server.exitCode :=
  (server.ending_follow message).2

/-- The session after some messages. -/
def follows (server : Server) (messages : List Message) : Server :=
  messages.foldl (fun server message => (server.follow message).1) server

theorem follows_cons (server : Server) (message : Message) (messages : List Message) :
    server.follows (message :: messages) = (server.follow message).1.follows messages := rfl

theorem follows_append (server : Server) (messages later : List Message) :
    server.follows (messages ++ later) = (server.follows messages).follows later :=
  List.foldl_append

/-- A mark that messages of one kind set, and that none removes, tells whether such a
message has come. -/
theorem mark_follows (mark : Server → Bool) {sets : Message → Bool}
    (hstep : ∀ server message, mark (server.follow message).1 = (mark server || sets message))
    (server : Server) (messages : List Message) :
    mark (server.follows messages) = (mark server || messages.any sets) := by
  induction messages generalizing server with
  | nil => exact (Bool.or_false _).symm
  | cons message messages ih =>
      rw [follows_cons, ih, hstep, List.any_cons, Bool.or_assoc]

/-- Settings are not changed once the session has started. -/
theorem settings_follows_of_initialized {server : Server} (h : server.initialized = true)
    (messages : List Message) : (server.follows messages).settings = server.settings := by
  induction messages generalizing server with
  | nil => rfl
  | cons message messages ih =>
      have hstarted : (server.follow message).1.initialized = true := by
        rw [initialized_follow, h, Bool.true_or]
      rw [follows_cons, ih hstarted, settings_follow, h]
      rfl

/-- Settings are those of the first request to start the session. -/
theorem settings_follows {server : Server} (h : server.initialized = false)
    (messages : List Message) :
    (server.follows messages).settings =
      match messages.find? (·.isRequest "initialize") with
      | some message => settingsFrom server.settings message
      | none => server.settings := by
  induction messages generalizing server with
  | nil => rfl
  | cons message messages ih =>
      rw [follows_cons, List.find?_cons]
      cases hstart : message.isRequest "initialize" with
      | true =>
          have hstarted : (server.follow message).1.initialized = true := by
            rw [initialized_follow, hstart, Bool.or_true]
          rw [settings_follows_of_initialized hstarted, settings_follow, h, hstart]
          rfl
      | false =>
          have hwaiting : (server.follow message).1.initialized = false := by
            rw [initialized_follow, h, hstart]
            rfl
          have hsettings : (server.follow message).1.settings = server.settings := by
            rw [settings_follow, hstart, Bool.and_false]
            rfl
          rw [ih hwaiting, hsettings]

/-- The exit code stays as it is unless a notification to exit comes. -/
theorem exitCode_follows {messages : List Message}
    (h : ∀ message ∈ messages, message.isNotification "exit" = false) (server : Server) :
    (server.follows messages).exitCode = server.exitCode := by
  induction messages generalizing server with
  | nil => rfl
  | cons message messages ih =>
      have hother : message.isNotification "exit" = false := h message List.mem_cons_self
      rw [follows_cons, ih fun later hlater => h later (List.mem_cons_of_mem _ hlater),
        exitCode_follow, hother]
      rfl

theorem isSome_exitCode_follow (server : Server) (message : Message) :
    (server.follow message).1.exitCode.isSome =
      (server.exitCode.isSome || message.isNotification "exit") := by
  rw [exitCode_follow]
  cases message.isNotification "exit" <;> simp

theorem lifecycle_follows (settings : Settings) (heard : List Message) :
    Lifecycle settings heard (follows { settings } heard) where
  initialized := mark_follows Server.initialized initialized_follow _ heard
  shutdownRequested := mark_follows Server.shutdownRequested shutdownRequested_follow _ heard
  exitCode_none := by
    have hsome : (follows { settings } heard).exitCode.isSome =
        heard.any (·.isNotification "exit") :=
      mark_follows (fun server => server.exitCode.isSome) isSome_exitCode_follow _ heard
    rw [← Option.not_isSome_iff_eq_none, hsome, Bool.not_eq_true, List.any_eq_false]
    simp only [Bool.not_eq_true]
  exitCode_some := by
    rintro before exit later rfl hexit hlater
    have hrequested : (follows { settings } before).shutdownRequested =
        before.any (·.isRequest "shutdown") :=
      mark_follows Server.shutdownRequested shutdownRequested_follow _ before
    rw [follows_append, follows_cons, exitCode_follows hlater, exitCode_follow, if_pos hexit,
      hrequested]
  settings := settings_follows rfl heard

theorem request?_method (feature : FeatureRequest) :
    dispatcher.request? feature.method = some (onFeature feature) := by
  obtain ⟨hstart, hshutdown⟩ := method_ne feature
  simp only [dispatcher, request?, if_neg hstart, if_neg hshutdown, ofMethod?_method,
    Option.map_some]

/-- The server has no wording of its own that cannot be sent. -/
theorem sendable_of_due {server : Server} {feature : FeatureRequest} {params : Option Json}
    {failure : Failure} (h : server.due feature params = .error failure) : failure.Sendable := by
  have hwording : ∀ (code : ErrorCode) (message : String),
      (.error (code.failure message) : Verdict) = .error failure → failure.Sendable := by
    rintro code message ⟨⟩
    exact ErrorCode.sendable_failure_iff.mpr (Text.holdsHalf_ofString message)
  rw [due] at h
  split at h
  · exact hwording _ _ h
  split at h
  · exact hwording _ _ h
  split at h
  · cases h
  · exact hwording _ _ h

/-- The verdict on a question is delivered. -/
theorem delivered_feature (server : Server) (id : Id) (feature : FeatureRequest)
    (params : Option Json) :
    Delivered id (server.due feature params)
      (dispatcher.answer server id feature.method params) :=
  Dispatcher.delivered_answer (request?_method feature)
    (congrArg Reaction.outcome (onFeature_eq server feature params)) fun _ => sendable_of_due

theorem answer_feature (server : Server) (id : Id) (feature : FeatureRequest)
    (params : Option Json) :
    dispatcher.answer server id feature.method params =
      { state := server
        answer := (Dispatcher.conclude id feature.method (server.due feature params).outcome).1
        log := (Dispatcher.conclude id feature.method (server.due feature params).outcome).2 } := by
  rw [Dispatcher.answer, request?_method]
  simp only [onFeature_eq]
  rfl

/-- A session that has started refuses to be started again, and stays as it is. -/
theorem answer_started {server : Server} (h : server.initialized = true) (id : Id)
    (params : Option Json) :
    (dispatcher.answer server id "initialize" params).state = server ∧
      (dispatcher.answer server id "initialize" params).sent = [] ∧
      Delivered id (.error (ErrorCode.invalidRequest.failure "Server already initialized"))
        (dispatcher.answer server id "initialize" params) := by
  have hhandler : dispatcher.request? "initialize" = some onStart := rfl
  have hrefused : onStart (Dispatcher.handlerParams params) server =
      server.refuse .invalidRequest "Server already initialized" := by
    rw [onStart, if_pos h]
  have heffect := Dispatcher.answer_effect dispatcher server id "initialize" params
  simp only [hhandler, hrefused] at heffect
  obtain ⟨hstate, hsent⟩ := Prod.mk.inj heffect
  refine ⟨hstate, hsent, Dispatcher.delivered_answer hhandler ?_ ?_⟩
  · rw [hrefused]
    rfl
  · rintro failure ⟨⟩
    exact ErrorCode.sendable_failure_iff.mpr (Text.holdsHalf_ofString _)

/-- A request to shut down is accepted in every state. -/
theorem delivered_shutdown (server : Server) (id : Id) (params : Option Json) :
    Delivered id (.ok .null) (dispatcher.answer server id "shutdown" params) :=
  have hhandler : dispatcher.request? "shutdown" = some onShutdown := rfl
  Dispatcher.delivered_result hhandler rfl

/-- A body that is a request is answered as that request. -/
theorem handle_request {content : Text} {id : Id} {method : Text} {params : Option Json}
    (h : messageOf? content = some (.request id method params)) (server : Server) :
    server.handle content = dispatcher.answer server id method params := by
  obtain ⟨value, hread, hclassify⟩ := messageOf?_eq_some_iff.mp h
  have hvalue : value ≠ .null := by
    rintro rfl
    cases hclassify
  rw [handle, Dispatcher.handle_of_readBody dispatcher server hread,
    Dispatcher.handleBody_of_ne_null _ _ hvalue, Dispatcher.handleValue, hclassify]

end Server

namespace Conversation

variable [NestingLimits]

/-- The messages among some bodies. -/
def messages (contents : List Text) : List Message :=
  contents.filterMap messageOf?

/-- A session does what the messages among its bodies say. -/
theorem server_after (settings : Settings) (contents : List Text) :
    (after settings contents).server = Server.follows { settings } (messages contents) := by
  induction contents using List.reverseRecOn with
  | nil => rfl
  | append_singleton contents content ih =>
      rw [after_concat, hear_eq, messages, List.filterMap_append, Server.follows_append]
      cases hmessage : messageOf? content with
      | none =>
          simp only [List.filterMap_cons_none hmessage]
          exact ih
      | some message =>
          simp only [List.filterMap_cons_some hmessage]
          exact congrArg (fun server => (Server.follow server message).1) ih

theorem lifecycle_after (settings : Settings) (contents : List Text) :
    Server.Lifecycle settings (messages contents) (after settings contents).server := by
  rw [server_after]
  exact Server.lifecycle_follows settings (messages contents)

/-- The state of a session is told by the messages it has heard. Whatever bodies a fresh
server is given, its state is the one that `Server.Lifecycle` reads off the messages
among them. One more request to start a session that has been asked to start is due to be refused,
and changes nothing. A question is due to be refused as too early exactly if no request to start
the session has come, and as too late exactly if one has and a request to shut down has
too; else it is due its own answer. What is due is delivered as far as it can be sent: it is
replied exactly if both the id and the verdict can be sent. -/
theorem lifecycle_told_by_messages (settings : Settings) (contents : List Text) :
    let server := (after settings contents).server
    let heard := messages contents
    let started := heard.any (·.isRequest "initialize")
    let shutdown := heard.any (·.isRequest "shutdown")
    Server.Lifecycle settings heard server ∧
    (∀ content id params, messageOf? content = some (.request id "initialize" params) →
      started = true →
      (server.handle content).state = server ∧ (server.handle content).sent = [] ∧
        Delivered id (.error (ErrorCode.invalidRequest.failure "Server already initialized"))
          (server.handle content)) ∧
    ∀ content id (feature : FeatureRequest) params,
      messageOf? content = some (.request id feature.method params) →
      Delivered id (server.due feature params) (server.handle content) ∧
        (errorCode? (replyTo id.toJson (server.due feature params)) = some (-32002) ↔
          started = false) ∧
        (errorCode? (replyTo id.toJson (server.due feature params)) = some (-32600) ↔
          started = true ∧ shutdown = true) ∧
        (started = true → shutdown = false →
          server.due feature params =
            match feature.answer server.documents (Dispatcher.handlerParams params) with
            | .ok result => .ok result
            | .error missing => .error (ErrorCode.invalidParams.failure missing.message)) := by
  intro server heard started shutdown
  have hlifecycle : Server.Lifecycle settings heard server := lifecycle_after settings contents
  have hstarted : server.initialized = started := hlifecycle.initialized
  have hshutdown : server.shutdownRequested = shutdown := hlifecycle.shutdownRequested
  refine ⟨hlifecycle, ?_, ?_⟩
  · intro content id params hcontent hstart
    rw [Server.handle_request hcontent server]
    exact Server.answer_started (hstarted.trans hstart) id params
  · intro content id feature params hcontent
    rw [Server.handle_request hcontent server, Server.errorCode?_replyTo, ← hstarted, ← hshutdown]
    obtain ⟨hearly, hlate⟩ := server.verdictCode?_due feature params
    refine ⟨server.delivered_feature id feature params, hearly, hlate, fun hopen hrunning => ?_⟩
    simp only [Server.due, hopen, hrunning]
    rfl

omit [NestingLimits] in
/-- A question that comes before the start is not refused if its id is half of a surrogate pair. -/
theorem question_with_half_id_unanswered :
    let content : Text :=
      "\x7b\"jsonrpc\": \"2.0\", \"id\": \"\\ud800\", \"method\": \"textDocument/hover\"\x7d"
    letI : NestingLimits := .usual
    let handled := (after {} []).server.handle content
    handled.reply = none ∧ handled.raised ≠ none := by
  intro content
  let _ : NestingLimits := .usual
  intro handled
  have htokens : Json.tokens content.toList = [.openObject, .text "jsonrpc", .colon, .text "2.0",
      .comma, .text "id", .colon, .text ⟨[.half 0]⟩, .comma, .text "method", .colon,
      .text "textDocument/hover", .closeObject] := by
    simp [content, Text.ofString]
  have hread : Json.read NestingLimits.reading content = .ok (.obj [("jsonrpc", .str "2.0"),
      ("id", .str ⟨[.half 0]⟩), ("method", .str "textDocument/hover")]) :=
    Json.read_of_tokens htokens rfl
  have hcontent :
      messageOf? content = some (.request (.str ⟨[.half 0]⟩) FeatureRequest.hover.method none) :=
    messageOf?_of_read hread
  have hid : ¬(Id.str ⟨[.half 0]⟩).Sendable := Bool.false_ne_true ∘ Eq.symm
  obtain ⟨-, -, hquestion⟩ := lifecycle_told_by_messages {} []
  have hdelivered := (hquestion content _ .hover none hcontent).1
  exact ⟨hdelivered.reply_none_iff.mpr hid, hdelivered.raised_iff.mpr hid⟩

end Conversation

end LanguageServer
