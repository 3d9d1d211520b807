/-
# What a dispatcher answers, and whom it calls

A body that can be read is answered unless it is a notification or a response, and the reply
names the request it belongs to (`IsReply`). What the reply says is decided before it is built
(`Dispatcher.verdict?`). A result goes out only if it can be sent, so handling the body fails
exactly where a refusal is due that cannot be sent.

Which handlers were called is told by a dispatcher whose handlers keep a record beside the
state (`Dispatcher.recording`): forgetting the record gives the plain dispatcher back, and the
record grows by the one call that the message asks for, or not at all.
-/

import LanguageServer.Proofs.JsonText
import Mathlib.Logic.Basic
import Mathlib.Tactic.ByContra

namespace LanguageServer.Rpc

namespace Message

/-- The id that can be recovered from a value, be it a message or not. -/
def recoveredId (value : Json) : Option Id :=
  (value.field? "id").bind Id.ofJson?

/-- The parameters of a value if they are an object or an array, and an empty
object otherwise. -/
def givenParams (value : Json) : Json :=
  match value.field? "params" with
  | some (.obj fields) => .obj fields
  | some (.arr items) => .arr items
  | _ => .obj []

theorem handlerParams_params? (value : Json) :
    Dispatcher.handlerParams (params? value) = givenParams value := by
  rw [params?, givenParams]
  cases value.field? "params" with
  | none => rfl
  | some params => cases params <;> rfl

/-- Where the parts of the message that a value is come from. -/
inductive Parts (value : Json) : Message → Prop
  | request {id : Id} {method : Text} (hid : recoveredId value = some id)
      (hmethod : value.string? "method" = some method) :
      Parts value (.request id method (params? value))
  | notification {method : Text} (hid : value.field? "id" = none)
      (hmethod : value.string? "method" = some method) :
      Parts value (.notification method (params? value))
  | response (result : Json) (error : Option Json) :
      Parts value (.response (recoveredId value) result error)
  | invalid (defect : Defect) : Parts value (.invalid defect (recoveredId value))

/-- Every value has its parts where they are expected. This is the one place where
the order of the checks on an envelope matters. -/
theorem parts_classify (value : Json) : Parts value (classify value) := by
  cases value with
  | obj fields =>
      rw [classify, ofFields]
      generalize Json.obj fields = value
      split
      · exact .invalid _
      split
      · split
        · exact .invalid _
        · next method hmethod =>
            split
            · next hid => exact .notification (by simpa using hid) hmethod
            · split
              · next hid =>
                  have hinvalid : Parts value (.invalid .idNotStringOrNumber (recoveredId value)) :=
                    .invalid _
                  rwa [recoveredId, hid] at hinvalid
              · next id hid => exact .request hid hmethod
      split
      · exact .response _ _
      · exact .invalid _
  | null | bool | int | float | str | arr => exact .invalid _

/-- Messages that are never answered. -/
def IsUnanswered (message : Message) : Prop :=
  (∃ method params, message = .notification method params) ∨
    ∃ id result error, message = .response id result error

end Message

/-- A reply to a request with the given id, or to a value that is no message: an
object with the version, the id, and either a result or an error. -/
structure IsReply (id reply : Json) : Prop where
  object : ∃ fields, reply = .obj fields
  version : reply.field? "jsonrpc" = some (.str "2.0")
  id : reply.field? "id" = some id
  result_or_error : (reply.field? "result").isSome = !(reply.field? "error").isSome

theorem isReply_success (id result : Json) : IsReply id (success id result) :=
  ⟨⟨_, rfl⟩, rfl, rfl, rfl⟩

theorem isReply_refusal (id : Json) (failure : Failure) : IsReply id (refusal id failure) :=
  ⟨⟨_, rfl⟩, rfl, rfl, rfl⟩

/-- What a request or a value that is no message is answered with: a result or a failure. -/
abbrev Verdict := Except Failure Json

/-- The reply that brings a verdict. -/
def replyTo (id : Json) : Verdict → Json
  | .ok result => success id result
  | .error failure => refusal id failure

theorem isReply_replyTo (id : Json) (verdict : Verdict) : IsReply id (replyTo id verdict) := by
  cases verdict with
  | ok result => exact isReply_success id result
  | error failure => exact isReply_refusal id failure

section Delivery

variable [NestingLimits]

/-- A verdict that can be sent. -/
def Verdict.Sendable : Verdict → Prop
  | .ok result => result.Sendable (NestingLimits.writing - 1)
  | .error failure => failure.Sendable

/-- How a handler ends that comes to a verdict. -/
def Verdict.outcome : Verdict → Outcome
  | .ok result => .result result
  | .error failure => .failure failure

/-- The reply can be sent if both the id and the verdict can. -/
theorem sendable_replyTo_iff {id : Id} {verdict : Verdict} :
    (replyTo id.toJson verdict).Sendable NestingLimits.writing ↔
      id.Sendable ∧ Verdict.Sendable verdict := by
  cases verdict with
  | ok result => exact sendable_success_iff
  | error failure =>
      exact (@sendable_refusal_iff _ (some id) failure).trans (by simp [Verdict.Sendable])

/-- What becomes of the verdict that is due to a request. It is replied if it can be sent under
the id of the request. If only the verdict cannot, the failure to send it is replied, and if the id
cannot, then nothing is. -/
structure Delivered {σ ν : Type} (id : Id) (due : Verdict) (handled : Handled σ ν) : Prop where
  reply_iff : handled.reply = some (replyTo id.toJson due) ↔ id.Sendable ∧ Verdict.Sendable due
  replaced : id.Sendable → ¬Verdict.Sendable due →
    ∃ text, handled.reply = some (refusal id.toJson (ErrorCode.internalError.failure text))
  raised_iff : handled.raised ≠ none ↔ ¬id.Sendable
  reply_none_iff : handled.reply = none ↔ ¬id.Sendable

end Delivery

namespace Dispatcher

variable {σ ν : Type} [NestingLimits]

/-- The verdict on a request whose handler has ended. A result stands if it can be sent. -/
def conclusion (id : Id) : Outcome → Verdict
  | .result value =>
      match build (success id.toJson value) with
      | .ok _ => .ok value
      | .error fault => .error (ErrorCode.internalError.failure fault.message)
  | .failure failure => .error failure
  | .crash text => .error (ErrorCode.internalError.failure text)

theorem conclude_eq (id : Id) (method : Text) (outcome : Outcome) :
    (conclude id method outcome).1 = .ofValue (replyTo id.toJson (conclusion id outcome)) := by
  cases outcome with
  | result value =>
      rw [conclude, conclusion]
      cases hbuild : build (success id.toJson value) with
      | ok packet => simp only [replyTo, Answer.ofValue, hbuild]
      | error fault => rfl
  | failure | crash => rfl

/-- A result stands if the reply with it can be sent, and otherwise is replaced by the failure to
send it. -/
theorem conclusion_result (id : Id) (result : Json) :
    ((success id.toJson result).Sendable NestingLimits.writing ∧
      conclusion id (.result result) = .ok result) ∨
    (¬(success id.toJson result).Sendable NestingLimits.writing ∧
      ∃ fault : BuildFault, conclusion id (.result result) =
        .error (ErrorCode.internalError.failure fault.message)) := by
  rw [← exists_build_eq_ok_iff, conclusion]
  cases build (success id.toJson result) with
  | ok packet => exact Or.inl ⟨⟨packet, rfl⟩, rfl⟩
  | error fault => exact Or.inr ⟨by simp, fault, rfl⟩

/-- A result that stands can be sent. -/
theorem sendable_of_conclusion {id : Id} {outcome : Outcome} {result : Json}
    (h : conclusion id outcome = .ok result) :
    (success id.toJson result).Sendable NestingLimits.writing := by
  cases outcome with
  | result value =>
      obtain ⟨hsendable, hstands⟩ | ⟨-, fault, hreplaced⟩ := conclusion_result id value
      · cases hstands.symm.trans h
        exact hsendable
      · cases hreplaced.symm.trans h
  | failure | crash => cases h

/-- The verdict on a request. -/
def answerVerdict (dispatcher : Dispatcher σ ν) (state : σ) (id : Id) (method : Text)
    (params : Option Json) : Verdict :=
  match dispatcher.request? method with
  | none => .error (ErrorCode.methodNotFound.failure ("Method not found: " ++ method))
  | some handler => conclusion id (handler (handlerParams params) state).outcome

theorem answer_answer (dispatcher : Dispatcher σ ν) (state : σ) (id : Id) (method : Text)
    (params : Option Json) :
    (dispatcher.answer state id method params).answer =
      .ofValue (replyTo id.toJson (dispatcher.answerVerdict state id method params)) := by
  rw [answer, answerVerdict]
  cases dispatcher.request? method with
  | none => rfl
  | some handler => exact conclude_eq id method _

/-- The verdict of a handler is delivered, provided that its failures can be sent. -/
theorem delivered_answer {dispatcher : Dispatcher σ ν} {state : σ} {id : Id} {method : Text}
    {params : Option Json} {handler : Handler σ ν} {due : Verdict}
    (hhandler : dispatcher.request? method = some handler)
    (houtcome : (handler (handlerParams params) state).outcome = due.outcome)
    (hfailure : ∀ failure, due = .error failure → failure.Sendable) :
    Delivered id due (dispatcher.answer state id method params) := by
  -- The verdict that is replied: the one that is due if it can be sent, else another one.
  obtain ⟨verdict, hanswer, hverdict, hdue, hother⟩ : ∃ verdict,
      (dispatcher.answer state id method params).answer = .ofValue (replyTo id.toJson verdict) ∧
        (id.Sendable → verdict.Sendable) ∧ (id.Sendable → due.Sendable → verdict = due) ∧
        (¬due.Sendable → ∃ text, verdict = .error (ErrorCode.internalError.failure text)) := by
    refine ⟨_, answer_answer dispatcher state id method params, ?_⟩
    rw [answerVerdict, hhandler]
    simp only [houtcome]
    cases due with
    | error failure =>
        exact ⟨fun _ => hfailure failure rfl, fun _ _ => rfl,
          fun hunsendable => absurd (hfailure failure rfl) hunsendable⟩
    | ok result =>
        simp only [Verdict.outcome]
        obtain ⟨hsendable, hstands⟩ | ⟨hunsendable, fault, hreplaced⟩ := conclusion_result id result
        · rw [sendable_success_iff] at hsendable
          rw [hstands]
          exact ⟨fun _ => hsendable.2, fun _ _ => rfl,
            fun hunsendable => absurd hsendable.2 hunsendable⟩
        · rw [hreplaced]
          exact ⟨fun _ => ErrorCode.sendable_failure_iff.mpr (Text.holdsHalf_ofString _),
            fun hid hresult => absurd (sendable_success_iff.mpr ⟨hid, hresult⟩) hunsendable,
            fun _ => ⟨_, rfl⟩⟩
  have hsent : (replyTo id.toJson verdict).Sendable NestingLimits.writing ↔ id.Sendable :=
    sendable_replyTo_iff.trans ⟨And.left, fun hid => ⟨hid, hverdict hid⟩⟩
  have hreply : ∀ reply, (dispatcher.answer state id method params).reply = some reply ↔
      id.Sendable ∧ reply = replyTo id.toJson verdict := by
    intro reply
    rw [Handled.reply, hanswer, Answer.value_ofValue, hsent]
  have hraised : (dispatcher.answer state id method params).raised = none ↔ id.Sendable := by
    rw [Handled.raised, hanswer, Answer.raised?_ofValue_eq_none_iff, hsent]
  refine ⟨?_, ?_, not_congr hraised, ?_⟩
  · constructor
    · intro h
      obtain ⟨hid, hsame⟩ := (hreply _).mp h
      exact sendable_replyTo_iff.mp (hsame ▸ hsent.mpr hid)
    · rintro ⟨hid, hsendable⟩
      exact (hreply _).mpr ⟨hid, by rw [hdue hid hsendable]⟩
  · intro hid hunsendable
    obtain ⟨text, htext⟩ := hother hunsendable
    exact ⟨text, (hreply _).mpr ⟨hid, by rw [htext]; rfl⟩⟩
  · rw [Option.eq_none_iff_forall_ne_some]
    constructor
    · intro h hid
      exact h _ ((hreply _).mpr ⟨hid, rfl⟩)
    · intro hid reply h
      exact hid ((hreply reply).mp h).1

/-- A result is due if the handler ends with it. -/
theorem delivered_result {dispatcher : Dispatcher σ ν} {state : σ} {id : Id} {method : Text}
    {params : Option Json} {handler : Handler σ ν} {result : Json}
    (hhandler : dispatcher.request? method = some handler)
    (houtcome : (handler (handlerParams params) state).outcome = .result result) :
    Delivered id (.ok result) (dispatcher.answer state id method params) :=
  delivered_answer hhandler houtcome (by rintro _ ⟨⟩)

omit [NestingLimits] in
/-- A notification is not answered, however its handler ends. -/
theorem answer_notice (dispatcher : Dispatcher σ ν) (state : σ) (method : Text)
    (params : Option Json) : (dispatcher.notice state method params).answer = .silent := by
  rw [notice]
  split <;> rfl

/-- The verdict on a message, if it is to be answered. -/
def messageVerdict? (dispatcher : Dispatcher σ ν) (state : σ) : Message → Option Verdict
  | .request id method params => some (dispatcher.answerVerdict state id method params)
  | .invalid defect _ => some (.error (ErrorCode.invalidRequest.failure defect.message))
  | .notification _ _ => none
  | .response _ _ _ => none

/-- The verdict on the value of a body, if it is to be answered. A body that is not JSON counts as
null, which has its own verdict. -/
def verdict? (dispatcher : Dispatcher σ ν) (state : σ) : Json → Option Verdict
  | .null => some (.error (ErrorCode.parseError.failure "Invalid JSON"))
  | value => dispatcher.messageVerdict? state (Message.classify value)

/-- How the handling of a message ends that has a verdict or has none. -/
def answerBy (id : Json) : Option Verdict → Answer
  | none => .silent
  | some verdict => .ofValue (replyTo id verdict)

/-- What a body leads to that holds a value. A body that is not JSON counts as null. -/
def handleBody (dispatcher : Dispatcher σ ν) (state : σ) : Json → Handled σ ν
  | .null => { state, answer := .ofValue parseRefusal }
  | value => dispatcher.handleValue state value

theorem handleBody_of_ne_null (dispatcher : Dispatcher σ ν) (state : σ) {value : Json}
    (h : value ≠ .null) :
    dispatcher.handleBody state value = dispatcher.handleValue state value := by
  cases value with
  | null => exact absurd rfl h
  | bool | int | float | str | arr | obj => rfl

theorem verdict?_of_ne_null (dispatcher : Dispatcher σ ν) (state : σ) {value : Json}
    (h : value ≠ .null) :
    dispatcher.verdict? state value =
      dispatcher.messageVerdict? state (Message.classify value) := by
  cases value with
  | null => exact absurd rfl h
  | bool | int | float | str | arr | obj => rfl

theorem handle_of_readBody (dispatcher : Dispatcher σ ν) (state : σ) {content : Text} {value : Json}
    (h : Message.readBody content = .ok value) :
    dispatcher.handle state content = dispatcher.handleBody state value := by
  rw [handle, h]
  cases value <;> rfl

theorem handle_of_readBody_error (dispatcher : Dispatcher σ ν) (state : σ) {content : Text}
    {fault : BodyFault} (h : Message.readBody content = .error fault) :
    dispatcher.handle state content = { state, answer := .raised (.unread fault) } := by
  rw [handle, h]

/-- A value is answered by its verdict, under the id that can be recovered from it. -/
theorem answer_handleValue (dispatcher : Dispatcher σ ν) (state : σ) (value : Json) :
    (dispatcher.handleValue state value).answer =
      answerBy (Id.orNull (Message.recoveredId value))
        (dispatcher.messageVerdict? state (Message.classify value)) := by
  have hparts := Message.parts_classify value
  rw [handleValue]
  generalize Message.classify value = message at hparts
  cases hparts with
  | request hid hmethod =>
      rw [hid]
      exact answer_answer dispatcher state _ _ _
  | notification hid hmethod => exact answer_notice dispatcher state _ _
  | response result error => rfl
  | invalid defect => rfl

theorem answer_handleBody (dispatcher : Dispatcher σ ν) (state : σ) (value : Json) :
    (dispatcher.handleBody state value).answer =
      answerBy (Id.orNull (Message.recoveredId value)) (dispatcher.verdict? state value) := by
  by_cases hnull : value = .null
  · subst hnull
    rfl
  · rw [handleBody_of_ne_null dispatcher state hnull, verdict?_of_ne_null dispatcher state hnull]
    exact answer_handleValue dispatcher state value

/-- There is no verdict on a notification, on a response, and on nothing else. -/
theorem verdict?_eq_none_iff {dispatcher : Dispatcher σ ν} {state : σ} {value : Json} :
    dispatcher.verdict? state value = none ↔ (Message.classify value).IsUnanswered := by
  by_cases hnull : value = .null
  · subst hnull
    simp [verdict?, Message.classify, Message.IsUnanswered]
  · rw [verdict?_of_ne_null dispatcher state hnull]
    cases Message.classify value <;> simp [messageVerdict?, Message.IsUnanswered]

/-- A result stands only if the reply with it can be sent. -/
theorem sendable_of_verdict? {dispatcher : Dispatcher σ ν} {state : σ} {value result : Json}
    (h : dispatcher.verdict? state value = some (.ok result)) :
    (success (Id.orNull (Message.recoveredId value)) result).Sendable NestingLimits.writing := by
  have hnull : value ≠ .null := by
    rintro rfl
    cases h
  rw [verdict?_of_ne_null dispatcher state hnull] at h
  have hparts := Message.parts_classify value
  generalize Message.classify value = message at hparts h
  cases hparts with
  | @request id method hid hmethod =>
      rw [hid]
      have hverdict := Option.some.inj h
      rw [answerVerdict] at hverdict
      cases hhandler : dispatcher.request? method with
      | none =>
          rw [hhandler] at hverdict
          cases hverdict
      | some handler =>
          rw [hhandler] at hverdict
          exact sendable_of_conclusion hverdict
  | notification | response | invalid => cases h

/-- Handling a value fails exactly if it is to be refused and the refusal cannot be sent: the id
cannot, or the failure cannot. -/
theorem raised_handleBody_iff {dispatcher : Dispatcher σ ν} {state : σ} {value : Json} :
    (dispatcher.handleBody state value).raised ≠ none ↔
      ∃ failure, dispatcher.verdict? state value = some (.error failure) ∧
        ((∃ id, Message.recoveredId value = some id ∧ ¬id.Sendable) ∨ ¬failure.Sendable) := by
  rw [Handled.raised, answer_handleBody]
  cases hverdict : dispatcher.verdict? state value with
  | none => simp [answerBy, Answer.raised?]
  | some verdict =>
      rw [answerBy, Ne, Answer.raised?_ofValue_eq_none_iff]
      cases verdict with
      | ok result => simp [replyTo, sendable_of_verdict? hverdict]
      | error failure =>
          rw [replyTo, sendable_refusal_iff, not_and_or]
          simp

/-- A value that has been handled has the reply that brings its verdict. -/
theorem reply_handleBody {dispatcher : Dispatcher σ ν} {state : σ} {value : Json}
    (h : (dispatcher.handleBody state value).raised = none) :
    (dispatcher.handleBody state value).reply =
      (dispatcher.verdict? state value).map
        (replyTo (Id.orNull (Message.recoveredId value))) := by
  rw [Handled.raised, answer_handleBody] at h
  rw [Handled.reply, answer_handleBody]
  cases hverdict : dispatcher.verdict? state value with
  | none => rfl
  | some verdict =>
      rw [hverdict] at h
      exact Answer.value_ofValue.mpr ⟨Answer.raised?_ofValue_eq_none_iff.mp h, rfl⟩

end Dispatcher

/-- The two tables of a dispatcher. -/
inductive Table
  | requests
  | notifications
  deriving DecidableEq, Repr

/-- One call of a handler: the table and the method it is registered under, and the
parameters it is given. -/
structure Call where
  table : Table
  method : Text
  params : Json

variable {σ ν : Type}

/-- The handler that does the same and adds its call to the record. -/
def recordingHandler (table : Table) (method : Text) (handler : Handler σ ν) :
    Handler (σ × List Call) ν := fun params (state, calls) =>
  let reaction := handler params state
  { state := (reaction.state, calls ++ [⟨table, method, params⟩])
    outcome := reaction.outcome
    sent := reaction.sent
    log := reaction.log
    stop := reaction.stop }

/-- What handling leads to, with a record beside the state. -/
def Handled.withCalls (handled : Handled σ ν) (calls : List Call) : Handled (σ × List Call) ν where
  state := (handled.state, calls)
  answer := handled.answer
  sent := handled.sent
  log := handled.log
  stop := handled.stop

namespace Dispatcher

variable [NestingLimits]

/-- The dispatcher whose handlers record their calls. -/
def recording (dispatcher : Dispatcher σ ν) : Dispatcher (σ × List Call) ν where
  request? method := (dispatcher.request? method).map (recordingHandler .requests method)
  notification? method :=
    (dispatcher.notification? method).map (recordingHandler .notifications method)

/-- The calls that a value asks for: the handler registered under exactly its method
in the table of its kind, with its parameters, and nothing else. -/
def callsFor (dispatcher : Dispatcher σ ν) (value : Json) : List Call :=
  match Message.classify value with
  | .request _ method _ =>
      if (dispatcher.request? method).isSome then
        [⟨.requests, method, Message.givenParams value⟩]
      else []
  | .notification method _ =>
      if (dispatcher.notification? method).isSome then
        [⟨.notifications, method, Message.givenParams value⟩]
      else []
  | _ => []

/-- A request calls its handler once, or there is none. -/
theorem answer_recording (dispatcher : Dispatcher σ ν) (state : σ) (calls : List Call) (id : Id)
    (method : Text) (params : Option Json) :
    dispatcher.recording.answer (state, calls) id method params =
      (dispatcher.answer state id method params).withCalls
        (calls ++ if (dispatcher.request? method).isSome then
          [⟨.requests, method, handlerParams params⟩] else []) := by
  cases hhandler : dispatcher.request? method with
  | none =>
      have hrecording : dispatcher.recording.request? method = none := by
        simp only [recording, hhandler, Option.map_none]
      simp [answer, hrecording, hhandler, Handled.withCalls]
  | some handler =>
      have hrecording : dispatcher.recording.request? method =
          some (recordingHandler .requests method handler) := by
        simp only [recording, hhandler, Option.map_some]
      simp only [answer, hrecording, hhandler, recordingHandler]
      cases (handler (handlerParams params) state).outcome <;> rfl

omit [NestingLimits] in
/-- A notification calls its handler once, or there is none. -/
theorem notice_recording (dispatcher : Dispatcher σ ν) (state : σ) (calls : List Call)
    (method : Text) (params : Option Json) :
    dispatcher.recording.notice (state, calls) method params =
      (dispatcher.notice state method params).withCalls
        (calls ++ if (dispatcher.notification? method).isSome then
          [⟨.notifications, method, handlerParams params⟩] else []) := by
  cases hhandler : dispatcher.notification? method with
  | none =>
      have hrecording : dispatcher.recording.notification? method = none := by
        simp only [recording, hhandler, Option.map_none]
      simp [notice, hrecording, hhandler, Handled.withCalls]
  | some handler =>
      have hrecording : dispatcher.recording.notification? method =
          some (recordingHandler .notifications method handler) := by
        simp only [recording, hhandler, Option.map_some]
      simp only [notice, hrecording, hhandler, recordingHandler]
      rfl

/-- Recording changes nothing but the record, which grows by the calls that the value
asks for. -/
theorem handleValue_recording (dispatcher : Dispatcher σ ν) (state : σ) (calls : List Call)
    (value : Json) :
    dispatcher.recording.handleValue (state, calls) value =
      (dispatcher.handleValue state value).withCalls (calls ++ dispatcher.callsFor value) := by
  have hparts := Message.parts_classify value
  rw [handleValue, handleValue, callsFor]
  generalize Message.classify value = message at hparts
  cases hparts with
  | request hid hmethod =>
      simp only [answer_recording, Message.handlerParams_params?]
  | notification hid hmethod =>
      simp only [notice_recording, Message.handlerParams_params?]
  | response result error => simp [Handled.withCalls]
  | invalid defect => simp [Handled.withCalls]

/-- Recording changes nothing but the record. -/
theorem handleBody_recording (dispatcher : Dispatcher σ ν) (state : σ) (calls : List Call)
    (value : Json) :
    dispatcher.recording.handleBody (state, calls) value =
      (dispatcher.handleBody state value).withCalls (calls ++ dispatcher.callsFor value) := by
  by_cases hnull : value = .null
  · subst hnull
    simp [handleBody, callsFor, Message.classify, Handled.withCalls]
  · rw [handleBody_of_ne_null _ _ hnull, handleBody_of_ne_null _ _ hnull]
    exact handleValue_recording dispatcher state calls value

omit [NestingLimits] in
theorem length_callsFor_le_one (dispatcher : Dispatcher σ ν) (value : Json) :
    (dispatcher.callsFor value).length ≤ 1 := by
  rw [callsFor]
  split
  · split <;> simp
  · split <;> simp
  · simp

/-- How a dispatcher answers a body that has a value. Handling it fails exactly if the body is to
be refused and the refusal cannot be sent. Otherwise it has no reply exactly if it is a
notification or a response, and any other body has one reply, under the id that can be recovered
from it, which is the id of a request and null for a body that is not JSON. In any case at most
one handler is called, and at most once: the one that the body asks for, with the parameters it
gives. -/
theorem handle_discipline (dispatcher : Dispatcher σ ν) (state : σ) {content : Text}
    {value : Json} (hread : Message.readBody content = .ok value) :
    let handled := dispatcher.handle state content
    (handled.raised ≠ none ↔
      ∃ failure, dispatcher.verdict? state value = some (.error failure) ∧
        ((∃ id, Message.recoveredId value = some id ∧ ¬id.Sendable) ∨ ¬failure.Sendable)) ∧
      (handled.raised = none →
        (handled.reply = none ↔ (Message.classify value).IsUnanswered) ∧
        ∀ reply, handled.reply = some reply →
          IsReply (Id.orNull (Message.recoveredId value)) reply) ∧
      (∀ id method params, Message.classify value = .request id method params →
        Message.recoveredId value = some id) ∧
      (Json.read NestingLimits.reading content = .error .malformed →
        Message.recoveredId value = none) ∧
      (∀ calls, dispatcher.recording.handle (state, calls) content =
        handled.withCalls (calls ++ dispatcher.callsFor value)) ∧
      (dispatcher.callsFor value).length ≤ 1 := by
  intro handled
  have hhandled : handled = dispatcher.handleBody state value := handle_of_readBody _ _ hread
  rw [hhandled]
  refine ⟨raised_handleBody_iff, fun hraised => ⟨?_, ?_⟩, ?_, ?_, ?_, length_callsFor_le_one _ _⟩
  · rw [reply_handleBody hraised, Option.map_eq_none_iff, verdict?_eq_none_iff]
  · intro reply hreply
    rw [reply_handleBody hraised] at hreply
    obtain ⟨verdict, -, rfl⟩ := Option.map_eq_some_iff.mp hreply
    exact isReply_replyTo _ _
  · intro id method params hrequest
    have hparts := Message.parts_classify value
    rw [hrequest] at hparts
    cases hparts with
    | request hid hmethod => exact hid
  · intro hmalformed
    rw [Message.readBody, hmalformed] at hread
    obtain rfl : Json.null = value := Except.ok.inj hread
    rfl
  · intro calls
    rw [handle_of_readBody _ _ hread]
    exact handleBody_recording dispatcher state calls value

/-- A dispatcher with one handler, which returns its parameters and counts its calls. -/
def echoing : Dispatcher Nat Unit where
  request? method :=
    if method = "echo" then
      some fun params count => { state := count + 1, outcome := .result params }
    else none
  notification? _ := none

omit [NestingLimits] in
/-- A request with an array of parameters is answered under its id after one call of its
handler. A request for a method whose name is half of a surrogate pair would be refused, and is
not answered. -/
theorem echoing_discipline :
    let value : Json := .obj [("params", .arr [.bool true]), ("id", .int 7),
      ("method", .str "echo"), ("jsonrpc", .str "2.0")]
    let value' : Json := .obj [("jsonrpc", .str "2.0"), ("id", .int 1),
      ("method", .str ⟨[.half 0]⟩)]
    let content' : Text := "\x7b\"jsonrpc\": \"2.0\", \"id\": 1, \"method\": \"\\ud800\"\x7d"
    letI : NestingLimits := .usual
    (Message.readBody value.render = .ok value ∧
      let handled := echoing.handle 0 value.render
      handled.raised = none ∧ handled.reply ≠ none ∧
        (∀ reply, handled.reply = some reply → IsReply (.int 7) reply) ∧
        echoing.recording.handle (0, []) value.render =
          handled.withCalls [⟨.requests, "echo", .arr [.bool true]⟩]) ∧
      Message.readBody content' = .ok value' ∧ (echoing.handle 0 content').raised ≠ none := by
  intro value value' content'
  let _ : NestingLimits := .usual
  have hplain : value.Plain 2 := by
    simp [value]
    decide
  have hread : Message.readBody value.render = .ok value :=
    Message.readBody_of_read (Json.read_render hplain (by decide))
  have hone (rest : List CodePoint) : Json.tokens (.char '1' :: .char ',' :: rest) =
      .scalar (.int 1) :: Json.tokens (.char ',' :: rest) :=
    Json.tokens_int (Json.endsValue_cons (Or.inl rfl) rest) 1
  have htokens : Json.tokens content'.toList = [.openObject, .text "jsonrpc", .colon, .text "2.0",
      .comma, .text "id", .colon, .scalar (.int 1), .comma, .text "method", .colon,
      .text ⟨[.half 0]⟩, .closeObject] := by
    simp [content', Text.ofString, hone]
  have hread' : Message.readBody content' = .ok value' :=
    Message.readBody_of_read (Json.read_of_tokens htokens rfl)
  obtain ⟨hraised, hreply, -, -, hcalls, -⟩ := handle_discipline echoing 0 hread
  obtain ⟨hraised', -⟩ := handle_discipline echoing 0 hread'
  have hhandled : (echoing.handle 0 value.render).raised = none := by
    by_contra hne
    obtain ⟨failure, hverdict, -⟩ := hraised.mp hne
    have hstands : echoing.verdict? 0 value = some (.ok (.arr [.bool true])) := by rfl
    cases hverdict.symm.trans hstands
  obtain ⟨hnone, hisReply⟩ := hreply hhandled
  refine ⟨⟨hread, hhandled, ?_, hisReply, hcalls []⟩, hread', hraised'.mpr ?_⟩
  · rw [Ne, hnone]
    rintro (⟨method, params, hkind⟩ | ⟨id, result, error, hkind⟩) <;> cases hkind
  · refine ⟨_, rfl, Or.inr ?_⟩
    rw [ErrorCode.sendable_failure_iff]
    decide

end Dispatcher

end LanguageServer.Rpc
