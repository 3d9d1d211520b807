/-
# The gate before the requests

A session is meant to answer only between its start and its shutdown: every request
but the one to start it is too early before the start, and every request is too late
once a shutdown has been accepted (`Conversation.GateKept`). The gate stands before
the questions about documents only, so it fails in two ways: a request to shut down
always passes, and what follows a shutdown without a start is judged by the missing
start. It fails in one other way, as a request whose id cannot be sent is not refused.
-/

import LanguageServer.Proofs.Lifecycle
import Mathlib.Tactic.Tauto

namespace LanguageServer

open Rpc

namespace Server

variable [NestingLimits]

/-- The requests that have a handler: the two about the session itself and the
questions about documents. -/
theorem isSome_request?_iff {method : Text} :
    (dispatcher.request? method).isSome = true ↔
      method = "initialize" ∨ method = "shutdown" ∨
        ∃ feature : FeatureRequest, method = feature.method := by
  constructor
  · intro h
    by_cases hstart : method = "initialize"
    · exact Or.inl hstart
    by_cases hshutdown : method = "shutdown"
    · exact Or.inr (Or.inl hshutdown)
    · have hhandler :
          dispatcher.request? method = (FeatureRequest.ofMethod? method).map onFeature := by
        simp [dispatcher, request?, hstart, hshutdown]
      rw [hhandler, Option.isSome_map, Option.isSome_iff_exists] at h
      obtain ⟨feature, hfeature⟩ := h
      rw [FeatureRequest.ofMethod?] at hfeature
      have hmethod := List.find?_some hfeature
      exact Or.inr (Or.inr ⟨feature, (of_decide_eq_true hmethod).symm⟩)
  · rintro (rfl | rfl | ⟨feature, rfl⟩)
    · rfl
    · rfl
    · rw [request?_method]
      rfl

/-- The code of the error with which a request is answered, if it is. -/
def answerCode? (server : Server) (id : Id) (method : Text) (params : Option Json) : Option Int :=
  (dispatcher.answer server id method params).reply.bind errorCode?

/-- A verdict is replied with its code if the id can be sent. -/
theorem code_eq_some_iff {id : Id} {due : Verdict} {handled : Handled Server Announcement}
    (h : Delivered id due handled) (hfailure : ∀ failure, due = .error failure → failure.Sendable)
    {code : Int} (hcode : code ≠ -32603) :
    handled.reply.bind errorCode? = some code ↔ id.Sendable ∧ verdictCode? due = some code := by
  by_cases hid : id.Sendable
  · by_cases hdue : due.Sendable
    · rw [h.reply_iff.mpr ⟨hid, hdue⟩, Option.bind_some, errorCode?_replyTo]
      exact (and_iff_right hid).symm
    · obtain ⟨text, hreply⟩ := h.replaced hid hdue
      cases due with
      | ok result =>
          rw [hreply, Option.bind_some, errorCode?_refusal]
          simp [verdictCode?, ErrorCode.failure, ErrorCode.toInt, Ne.symm hcode]
      | error failure => exact absurd (hfailure failure rfl) hdue
  · rw [h.reply_none_iff.mpr hid]
    simp [hid]

/-- A request to start the session is accepted if the session has not started. -/
theorem delivered_start {server : Server} (h : server.initialized = false) (id : Id)
    (params : Option Json) :
    (∃ result, Delivered id (.ok result) (dispatcher.answer server id "initialize" params)) ∧
      (dispatcher.answer server id "initialize" params).state.initialized = true := by
  have hhandler : dispatcher.request? "initialize" = some onStart := rfl
  constructor
  · obtain ⟨result, hresult⟩ : ∃ result,
        (onStart (Dispatcher.handlerParams params) server).outcome = .result result := by
      rw [onStart, if_neg (ne_true_of_eq_false h)]
      exact ⟨_, rfl⟩
    exact ⟨result, Dispatcher.delivered_result hhandler hresult⟩
  · rw [Dispatcher.answer, hhandler]
    simp only [onStart, h]
    rfl

/-- There is a verdict on every request that has a handler, and it is delivered. -/
theorem exists_delivered {method : Text} (h : (dispatcher.request? method).isSome = true)
    (server : Server) (id : Id) (params : Option Json) :
    ∃ due, Delivered id due (dispatcher.answer server id method params) := by
  rcases isSome_request?_iff.mp h with rfl | rfl | ⟨feature, rfl⟩
  · cases hinitialized : server.initialized with
    | true => exact ⟨_, (answer_started hinitialized id params).2.2⟩
    | false =>
        obtain ⟨⟨result, hdelivered⟩, -⟩ := delivered_start hinitialized id params
        exact ⟨_, hdelivered⟩
  · exact ⟨_, server.delivered_shutdown id params⟩
  · exact ⟨_, server.delivered_feature id feature params⟩

theorem answerCode?_shutdown_ne (server : Server) (id : Id) (params : Option Json) {code : Int}
    (hcode : code ≠ -32603) : server.answerCode? id "shutdown" params ≠ some code := by
  intro h
  have hdelivered := server.delivered_shutdown id params
  have hverdict := ((code_eq_some_iff hdelivered (by rintro _ ⟨⟩) hcode).mp h).2
  cases hverdict

theorem answerCode?_start_iff (server : Server) (id : Id) (params : Option Json) :
    server.answerCode? id "initialize" params = some (-32600) ↔
      server.initialized = true ∧ id.Sendable := by
  cases hinitialized : server.initialized with
  | true =>
      have hdelivered := (answer_started hinitialized id params).2.2
      refine (code_eq_some_iff hdelivered ?_ (by decide)).trans ?_
      · rintro failure ⟨⟩
        exact ErrorCode.sendable_failure_iff.mpr (Text.holdsHalf_ofString _)
      · simp [verdictCode?, ErrorCode.failure, ErrorCode.toInt]
  | false =>
      obtain ⟨⟨result, hdelivered⟩, -⟩ := delivered_start hinitialized id params
      refine (code_eq_some_iff hdelivered (by rintro _ ⟨⟩) (by decide)).trans ?_
      simp [verdictCode?]

/-- A question that comes too early or too late is refused as such if its id can be sent. -/
theorem answerCode?_feature_iff (server : Server) (id : Id) (feature : FeatureRequest)
    (params : Option Json) :
    (server.answerCode? id feature.method params = some (-32002) ↔
      server.initialized = false ∧ id.Sendable) ∧
      (server.answerCode? id feature.method params = some (-32600) ↔
        server.initialized = true ∧ server.shutdownRequested = true ∧ id.Sendable) := by
  obtain ⟨hearly, hlate⟩ := server.verdictCode?_due feature params
  have hdelivered := server.delivered_feature id feature params
  constructor
  · refine (code_eq_some_iff hdelivered (fun _ => sendable_of_due) (by decide)).trans ?_
    rw [hearly, and_comm]
  · refine (code_eq_some_iff hdelivered (fun _ => sendable_of_due) (by decide)).trans ?_
    rw [hlate, and_comm, and_assoc]

theorem state_feature (server : Server) (id : Id) (feature : FeatureRequest)
    (params : Option Json) :
    (dispatcher.answer server id feature.method params).state = server := by
  rw [answer_feature]

/-- What is asked of the gate for a request: before the session has started, every
request but the one to start it is refused as too early and changes nothing; after a
shutdown has been accepted, every request is refused as too late. -/
structure GateKept (server : Server) (accepted : Prop) (id : Id) (method : Text)
    (params : Option Json) : Prop where
  early : server.initialized = false → method ≠ "initialize" →
    server.answerCode? id method params = some (-32002) ∧
      (dispatcher.answer server id method params).state = server
  late : accepted → server.answerCode? id method params = some (-32600)

variable {server : Server} {accepted : Prop} {id : Id} {params : Option Json}

theorem gateKept_start_iff :
    server.GateKept accepted id "initialize" params ↔
      (accepted → server.initialized = true ∧ id.Sendable) := by
  rw [← answerCode?_start_iff server id params]
  exact ⟨GateKept.late, fun h => ⟨fun _ hne => absurd rfl hne, h⟩⟩

theorem gateKept_shutdown_iff :
    server.GateKept accepted id "shutdown" params ↔ server.initialized = true ∧ ¬accepted := by
  constructor
  · intro h
    constructor
    · by_contra hinitialized
      have hearly := h.early (eq_false_of_ne_true hinitialized) (by decide)
      exact server.answerCode?_shutdown_ne id params (by decide) hearly.1
    · intro haccepted
      exact server.answerCode?_shutdown_ne id params (by decide) (h.late haccepted)
  · rintro ⟨hinitialized, haccepted⟩
    exact ⟨fun h => absurd (hinitialized.symm.trans h) (by decide), fun h => absurd h haccepted⟩

theorem gateKept_feature_iff (hshutdown : accepted → server.shutdownRequested = true)
    {feature : FeatureRequest} :
    server.GateKept accepted id feature.method params ↔
      (server.initialized = false → id.Sendable) ∧
        (accepted → server.initialized = true ∧ id.Sendable) := by
  obtain ⟨hearly, hlate⟩ := server.answerCode?_feature_iff id feature params
  constructor
  · intro h
    constructor
    · intro hinitialized
      exact (hearly.mp (h.early hinitialized (method_ne feature).1).1).2
    · intro haccepted
      obtain ⟨hinitialized, -, hid⟩ := hlate.mp (h.late haccepted)
      exact ⟨hinitialized, hid⟩
  · rintro ⟨hid, hclosed⟩
    refine ⟨fun hinitialized _ => ⟨hearly.mpr ⟨hinitialized, hid hinitialized⟩, ?_⟩, ?_⟩
    · exact state_feature server id feature params
    · intro haccepted
      obtain ⟨hinitialized, hid⟩ := hclosed haccepted
      exact hlate.mpr ⟨hinitialized, hshutdown haccepted, hid⟩

/-- Where the gate has to be kept, it fails exactly for two kinds of requests and for ids that
cannot be sent. -/
theorem not_gateKept_iff {method : Text} (h : (dispatcher.request? method).isSome = true)
    (hshutdown : accepted → server.shutdownRequested = true) :
    ¬server.GateKept accepted id method params ↔
      (server.initialized = false ∧ method ≠ "initialize" ∨ accepted) ∧
        (method = "shutdown" ∨ server.initialized = false ∧ accepted ∨ ¬id.Sendable) := by
  rcases isSome_request?_iff.mp h with rfl | rfl | ⟨feature, rfl⟩
  · rw [gateKept_start_iff]
    cases server.initialized <;> simp +contextual
  · rw [gateKept_shutdown_iff]
    cases server.initialized <;> simp
  · rw [gateKept_feature_iff hshutdown]
    obtain ⟨hstart, hother⟩ := method_ne feature
    cases server.initialized with
    | true => simp [hother]
    | false =>
        simp [hstart, hother]
        tauto

end Server

namespace Conversation

variable [NestingLimits]

/-- Among some bodies is a request to shut down that was accepted: it was answered,
and not with an error. -/
def ShutdownAccepted (settings : Settings) (contents : List Text) : Prop :=
  ∃ before content later id params reply,
    contents = before ++ content :: later ∧
    messageOf? content = some (.request id "shutdown" params) ∧
    ((after settings before).server.handle content).reply = some reply ∧ errorCode? reply = none

/-- Every request to shut down is accepted whose id can be sent. -/
theorem shutdownAccepted_iff {settings : Settings} {contents : List Text} :
    ShutdownAccepted settings contents ↔
      ∃ id params, .request id "shutdown" params ∈ messages contents ∧ id.Sendable := by
  simp only [messages, List.mem_filterMap]
  constructor
  · rintro ⟨before, content, later, id, params, reply, rfl, hcontent, hreply, -⟩
    refine ⟨id, params, ⟨content, by simp, hcontent⟩, ?_⟩
    rw [Server.handle_request hcontent] at hreply
    by_contra hid
    rw [(Server.delivered_shutdown _ id params).reply_none_iff.mpr hid] at hreply
    cases hreply
  · rintro ⟨id, params, ⟨content, hmem, hcontent⟩, hid⟩
    obtain ⟨before, later, rfl⟩ := List.append_of_mem hmem
    refine ⟨before, content, later, id, params, success id.toJson .null, rfl, hcontent, ?_, rfl⟩
    rw [Server.handle_request hcontent]
    exact (Server.delivered_shutdown _ id params).reply_iff.mpr ⟨hid, .null⟩

/-- A shutdown that has been accepted has been heard. -/
theorem shutdownRequested_of_accepted {settings : Settings} {contents : List Text}
    (h : ShutdownAccepted settings contents) :
    (after settings contents).server.shutdownRequested = true := by
  obtain ⟨id, params, hmem, -⟩ := shutdownAccepted_iff.mp h
  rw [(lifecycle_after settings contents).shutdownRequested, List.any_eq_true]
  exact ⟨_, hmem, rfl⟩

/-- What is asked of the gate when a request follows some bodies: before the first
request to start the session, every other request is refused as too early and leaves
the session as it was; after a shutdown has been accepted, every request is refused as
too late. -/
structure GateKept (settings : Settings) (contents : List Text) (method : Text)
    (handled : Handled Server Announcement) : Prop where
  early : (messages contents).any (·.isRequest "initialize") = false → method ≠ "initialize" →
    handled.reply.bind errorCode? = some (-32002) ∧
      handled.state = (after settings contents).server
  late : ShutdownAccepted settings contents → handled.reply.bind errorCode? = some (-32600)

/-- The gate looks at the state of the session, which tells what has come before. -/
theorem gateKept_iff (settings : Settings) (contents : List Text) (id : Id) (method : Text)
    (params : Option Json) :
    GateKept settings contents method
        (Server.dispatcher.answer (after settings contents).server id method params) ↔
      (after settings contents).server.GateKept (ShutdownAccepted settings contents) id method
        params := by
  have hlifecycle := lifecycle_after settings contents
  constructor
  · rintro ⟨hearly, hlate⟩
    rw [← hlifecycle.initialized] at hearly
    exact ⟨hearly, hlate⟩
  · rintro ⟨hearly, hlate⟩
    rw [hlifecycle.initialized] at hearly
    exact ⟨hearly, hlate⟩

/-- Where the gate has to be kept, before the start and after a shutdown that was accepted, it
fails exactly for two kinds of requests and for requests whose id cannot be sent: for a request to
shut down, and for any request that comes after a shutdown in a session that has not been started.
The former is accepted like every request to shut down. Of the latter, a request to start the
session is accepted too, and a question is refused as too early instead of too late. A request
whose id cannot be sent is not answered. -/
theorem gate_fails_exactly (settings : Settings) (contents : List Text) {content : Text}
    {id : Id} {method : Text} {params : Option Json}
    (hcontent : messageOf? content = some (.request id method params))
    (hmethod : (Server.dispatcher.request? method).isSome = true) :
    let started := (messages contents).any (·.isRequest "initialize")
    let accepted := ShutdownAccepted settings contents
    let handled := (after settings contents).server.handle content
    (accepted ↔
      ∃ known params, .request known "shutdown" params ∈ messages contents ∧ known.Sendable) ∧
    (¬GateKept settings contents method handled ↔
      (started = false ∧ method ≠ "initialize" ∨ accepted) ∧
        (method = "shutdown" ∨ started = false ∧ accepted ∨ ¬id.Sendable)) ∧
    (method = "shutdown" →
      handled.state = { (after settings contents).server with shutdownRequested := true } ∧
        (id.Sendable → handled.reply = some (success id.toJson .null))) ∧
    (started = false → accepted →
      (method = "initialize" →
        handled.state.initialized = true ∧ handled.reply.bind errorCode? ≠ some (-32600)) ∧
      ((∃ feature : FeatureRequest, method = feature.method) → id.Sendable →
        handled.reply.bind errorCode? = some (-32002))) ∧
    (¬id.Sendable → handled.reply = none ∧ handled.raised ≠ none) := by
  intro started accepted handled
  have hlifecycle := lifecycle_after settings contents
  have hstarted : (after settings contents).server.initialized = started := hlifecycle.initialized
  have hhandled : handled =
      Server.dispatcher.answer (after settings contents).server id method params :=
    Server.handle_request hcontent _
  rw [hhandled]
  refine ⟨shutdownAccepted_iff, ?_, ?_, ?_, ?_⟩
  · rw [gateKept_iff, ← hstarted]
    exact Server.not_gateKept_iff hmethod shutdownRequested_of_accepted
  · rintro rfl
    exact ⟨rfl, fun hid => (Server.delivered_shutdown _ id params).reply_iff.mpr ⟨hid, .null⟩⟩
  · intro hearly haccepted
    rw [← hstarted] at hearly
    constructor
    · rintro rfl
      refine ⟨(Server.delivered_start hearly id params).2, fun hcode => ?_⟩
      have hinitialized := ((Server.answerCode?_start_iff _ id params).mp hcode).1
      exact absurd (hinitialized.symm.trans hearly) (by decide)
    · rintro ⟨feature, rfl⟩ hid
      exact (Server.answerCode?_feature_iff _ id feature params).1.mpr ⟨hearly, hid⟩
  · intro hid
    obtain ⟨due, hdelivered⟩ := Server.exists_delivered hmethod (after settings contents).server id
      params
    exact ⟨hdelivered.reply_none_iff.mpr hid, hdelivered.raised_iff.mpr hid⟩

omit [NestingLimits] in
/-- A fresh session is shut down and then started. The gate fails both times: the
shutdown is accepted although it is too early, and the start although it is too late. -/
theorem shutdown_before_start :
    let shutdown : Json := .obj [("jsonrpc", .str "2.0"), ("id", .int 1),
      ("method", .str "shutdown")]
    let start : Json := .obj [("jsonrpc", .str "2.0"), ("id", .int 2),
      ("method", .str "initialize")]
    letI : NestingLimits := .usual
    let first := (after {} []).server.handle shutdown.render
    let second := (after {} [shutdown.render]).server.handle start.render
    ¬GateKept {} [] "shutdown" first ∧ first.reply = some (success (.int 1) .null) ∧
      first.state.shutdownRequested = true ∧
      ¬GateKept {} [shutdown.render] "initialize" second ∧ second.state.initialized = true := by
  intro shutdown start
  let _ : NestingLimits := .usual
  intro first second
  have hplain : shutdown.Plain 1 ∧ start.Plain 1 := by
    simp [shutdown, start]
    decide
  have hshutdown : messageOf? shutdown.render = some (.request (.int 1) "shutdown" none) :=
    messageOf?_render hplain.1 (by decide)
  have hstart : messageOf? start.render = some (.request (.int 2) "initialize" none) :=
    messageOf?_render hplain.2 (by decide)
  have hheard : messages [shutdown.render] = [.request (.int 1) "shutdown" none] := by
    simp only [messages, List.filterMap_cons, hshutdown, List.filterMap_nil]
  have hid : (Id.int 1).Sendable :=
    (by decide : (Decimal.digits 1).length ≤ Decimal.digitLimit)
  obtain ⟨-, hfirst, hdone, -⟩ := gate_fails_exactly {} [] hshutdown rfl
  obtain ⟨hstate, hreply⟩ := hdone rfl
  obtain ⟨hiff, hsecond, -, hlate, -⟩ := gate_fails_exactly {} [shutdown.render] hstart rfl
  have haccepted : ShutdownAccepted {} [shutdown.render] :=
    hiff.mpr ⟨.int 1, none, by rw [hheard]; exact List.mem_singleton.mpr rfl, hid⟩
  rw [hheard] at hsecond hlate
  exact ⟨hfirst.mpr ⟨Or.inl ⟨rfl, by decide⟩, Or.inl rfl⟩, hreply hid, by rw [hstate],
    hsecond.mpr ⟨Or.inr haccepted, Or.inr (Or.inl ⟨rfl, haccepted⟩)⟩,
    ((hlate rfl haccepted).1 rfl).1⟩

end Conversation

end LanguageServer
