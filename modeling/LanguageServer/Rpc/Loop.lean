/-
# Serving a stream

The loop that reads frames and handles their bodies until the stream ends, a
handler asks to stop, reading breaks down, or handling a body fails. A rejected frame is
reported to the peer and passed over. The loop ends because every frame after which it goes on
takes at least one byte from the stream.
-/

import LanguageServer.Frame.Reader
import LanguageServer.Rpc.Dispatcher

namespace LanguageServer.Rpc

/-- A message that goes out: one that a handler sent, or a reply. -/
inductive Output (ν : Type)
  | sent (message : ν)
  | reply (packet : Packet)

/-- The packet of an outgoing message, given the packets of what handlers send. -/
def Output.packet {ν : Type} (encode : ν → Packet) : Output ν → Packet
  | .sent message => encode message
  | .reply packet => packet

/-- What handling one message puts out: what the handler sent, then the reply. -/
def Handled.output {σ ν : Type} (handled : Handled σ ν) : List (Output ν) :=
  handled.sent.map .sent ++ handled.answer.packet?.toList.map .reply

/-- Why the loop ended. -/
inductive Ending
  | endOfStream
  | stopped
  | broken (cause : Frame.Breakdown)
  | raised (cause : Uncaught)
  deriving DecidableEq, Repr

/-- What one frame leads to: the new state, what goes out in order, the lines of
the log, and whether the loop ends here. -/
structure Turn (σ ν : Type) where
  state : σ
  output : List (Output ν) := []
  log : List Text := []
  ending : Option Ending := none

/-- What the whole loop leads to, with the bytes left unread. -/
structure Run (σ ν : Type) where
  state : σ
  output : List (Output ν)
  log : List Text
  ending : Ending
  unread : Bytes

/-- Whether the loop ends with the handling of a message. -/
def Handled.ending {σ ν : Type} (handled : Handled σ ν) : Option Ending :=
  match handled.raised with
  | some cause => some (.raised cause)
  | none => if handled.stop then some .stopped else none

/-- What handling a message leads to, as a turn of the loop. -/
def Handled.turn {σ ν : Type} (handled : Handled σ ν) : Turn σ ν :=
  { state := handled.state
    output := handled.output
    log := handled.log
    ending := handled.ending }

namespace Dispatcher

variable {σ ν : Type} [NestingLimits]

/-- What the peer is told about a frame that is rejected. -/
def transportFailure (fault : Frame.Fault) : Failure :=
  ErrorCode.parseError.failure fault.message

/-- The reply to a frame that is rejected. -/
def transportRefusal (fault : Frame.Fault) : Json :=
  refusal .null (transportFailure fault)

/-- What a frame that is rejected leads to. -/
def reject (state : σ) (fault : Frame.Fault) : Handled σ ν :=
  { state
    answer := .ofValue (transportRefusal fault)
    log := ["Transport error: " ++ (fault.message : Text)] }

/-- Acts on an attempt to read a frame. -/
def turn (dispatcher : Dispatcher σ ν) (state : σ) : Frame.Outcome → Turn σ ν
  | .finished => { state, ending := some .endOfStream }
  | .broken cause => { state, ending := some (.broken cause) }
  | .rejected fault => (reject state fault).turn
  | .body content => (dispatcher.handle state content).turn

/-- The loop ends at the end of the stream and when reading has broken down. -/
theorem goesOn_of_turn_ending_eq_none {dispatcher : Dispatcher σ ν} {state : σ}
    {outcome : Frame.Outcome} (h : (dispatcher.turn state outcome).ending = none) :
    outcome.goesOn = true := by
  cases outcome with
  | body => rfl
  | rejected => rfl
  | finished => simp [turn] at h
  | broken => simp [turn] at h

/-- Serves a stream from a state on. -/
def run (dispatcher : Dispatcher σ ν) (state : σ) (input : Bytes) : Run σ ν :=
  match _hread : Frame.read input with
  | (outcome, rest) =>
      let turn := dispatcher.turn state outcome
      match _hending : turn.ending with
      | some ending => ⟨turn.state, turn.output, turn.log, ending, rest⟩
      | none =>
          let later := dispatcher.run turn.state rest
          { later with output := turn.output ++ later.output, log := turn.log ++ later.log }
  termination_by input.length
  decreasing_by exact Frame.length_read_lt _hread (goesOn_of_turn_ending_eq_none _hending)

end Dispatcher

/-- The frames of outgoing messages as one text. -/
def Output.text {ν : Type} (encode : ν → Packet) (output : List (Output ν)) : String :=
  String.join (output.map fun message => Frame.text (message.packet encode).content)

end LanguageServer.Rpc
