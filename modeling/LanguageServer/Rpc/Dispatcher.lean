/-
# Dispatching messages

A dispatcher has a table of handlers for requests and one for notifications.
Handling a body leads to at most one reply: a request and a value that is no
message are answered, a notification and a response are not. Whatever a handler does, its
failure becomes a reply or a line of the log. A reply that cannot be built is no reply: if
it was to bring a result, then the failure to build it is replied, and any other one lets
the handling of the body fail.

Handlers work on a state of any type `σ` and may send messages of any type `ν`
on their own account.
-/

import LanguageServer.Rpc.Reply

namespace LanguageServer.Rpc

/-- How a handler ends: with a result, with a failure meant for the peer, or with
an error of its own. -/
inductive Outcome
  | result (value : Json)
  | failure (failure : Failure)
  | crash (text : Text)
  deriving Repr

/-- What a handler does: the new state, how it ends, what it sends and logs, and
whether it asks to stop after this message. -/
structure Reaction (σ ν : Type) where
  state : σ
  outcome : Outcome
  sent : List ν := []
  log : List Text := []
  stop : Bool := false

/-- A handler takes the parameters of a message in a state. -/
abbrev Handler (σ ν : Type) := Json → σ → Reaction σ ν

/-- The handlers by the names of their methods. -/
structure Dispatcher (σ ν : Type) where
  request? : Text → Option (Handler σ ν)
  notification? : Text → Option (Handler σ ν)

/-- What nobody handles: a body that has no value, or a reply that cannot be built. -/
inductive Uncaught
  | unread (fault : BodyFault)
  | unbuilt (fault : BuildFault)
  deriving DecidableEq, Repr

/-- The wording of what nobody handles. -/
def Uncaught.message : Uncaught → String
  | .unread fault => fault.message
  | .unbuilt fault => fault.message

/-- How the handling of a message ends: without a reply, with one, or with a failure that
nobody handles. -/
inductive Answer
  | silent
  | reply (packet : Packet)
  | raised (cause : Uncaught)

/-- What handling one message leads to. -/
structure Handled (σ ν : Type) where
  state : σ
  answer : Answer := .silent
  sent : List ν := []
  log : List Text := []
  stop : Bool := false

namespace Answer

/-- The packet of a reply. -/
def packet? : Answer → Option Packet
  | .reply packet => some packet
  | _ => none

/-- The failure that nobody handles. -/
def raised? : Answer → Option Uncaught
  | .raised cause => some cause
  | _ => none

variable [NestingLimits]

/-- Replies with a value. -/
def ofValue (value : Json) : Answer :=
  match build value with
  | .ok packet => .reply packet
  | .error fault => .raised (.unbuilt fault)

end Answer

namespace Handled

variable {σ ν : Type}

/-- The value of the reply. -/
def reply (handled : Handled σ ν) : Option Json :=
  handled.answer.packet?.map Packet.value

/-- The failure that nobody handles. -/
def raised (handled : Handled σ ν) : Option Uncaught :=
  handled.answer.raised?

end Handled

/-- The line of the log about a handler that did not end well. -/
def errorLine (method text : Text) : Text :=
  "Error handling " ++ method ++ ": " ++ text

namespace Dispatcher

variable {σ ν : Type} [NestingLimits]

/-- The parameters that a handler is given: an empty object in place of missing
ones. -/
def handlerParams (params : Option Json) : Json :=
  params.getD (.obj [])

/-- The end of a request whose handler has an error of its own. -/
def crashed (id : Id) (method text : Text) : Answer × List Text :=
  (.ofValue (refusal id.toJson (ErrorCode.internalError.failure text)), [errorLine method text])

/-- The end of a request whose handler has ended. A result that cannot be sent counts as an
error of the handler. -/
def conclude (id : Id) (method : Text) : Outcome → Answer × List Text
  | .result value =>
      match build (success id.toJson value) with
      | .ok packet => (.reply packet, [])
      | .error fault => crashed id method fault.message
  | .failure failure => (.ofValue (refusal id.toJson failure), [])
  | .crash text => crashed id method text

/-- Answers a request. -/
def answer (dispatcher : Dispatcher σ ν) (state : σ) (id : Id) (method : Text)
    (params : Option Json) : Handled σ ν :=
  match dispatcher.request? method with
  | none =>
      { state
        answer := .ofValue
          (refusal id.toJson (ErrorCode.methodNotFound.failure ("Method not found: " ++ method))) }
  | some handler =>
      let reaction := handler (handlerParams params) state
      let (answer, complaints) := conclude id method reaction.outcome
      { state := reaction.state
        answer
        sent := reaction.sent
        log := reaction.log ++ complaints
        stop := reaction.stop }

/-- Takes note of a notification. -/
def notice (dispatcher : Dispatcher σ ν) (state : σ) (method : Text) (params : Option Json) :
    Handled σ ν :=
  match dispatcher.notification? method with
  | none => { state, log := ["Ignoring notification: " ++ method] }
  | some handler =>
      let reaction := handler (handlerParams params) state
      let complaints :=
        match reaction.outcome with
        | .result _ => []
        | .failure failure => [errorLine method failure.message]
        | .crash text => [errorLine method text]
      { state := reaction.state
        sent := reaction.sent
        log := reaction.log ++ complaints
        stop := reaction.stop }

/-- Handles a value as a message. -/
def handleValue (dispatcher : Dispatcher σ ν) (state : σ) (value : Json) : Handled σ ν :=
  match Message.classify value with
  | .invalid defect id =>
      { state
        answer := .ofValue
          (refusal (Id.orNull id) (ErrorCode.invalidRequest.failure defect.message)) }
  | .response id _ _ =>
      { state, log := ["Ignoring response to unknown request: " ++ Id.display id] }
  | .request id method params => dispatcher.answer state id method params
  | .notification method params => dispatcher.notice state method params

/-- The reply to a body that is not JSON. -/
def parseRefusal : Json :=
  refusal .null (ErrorCode.parseError.failure "Invalid JSON")

/-- Handles the body of a message. -/
def handle (dispatcher : Dispatcher σ ν) (state : σ) (content : Text) : Handled σ ν :=
  match Message.readBody content with
  | .error fault => { state, answer := .raised (.unread fault) }
  | .ok .null => { state, answer := .ofValue parseRefusal }
  | .ok value => dispatcher.handleValue state value

end Dispatcher

end LanguageServer.Rpc
