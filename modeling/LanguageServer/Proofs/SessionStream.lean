/-
# Sessions over streams of frames

A session over a stream of frames does what handling their bodies one after the other
does (`Dispatcher.handleAll`). Body by body it puts out what the handler sends and then
the reply; it ends with the first body whose handler asks to stop, and what follows this
body stays in the stream.

The law holds of every dispatcher (`Dispatcher.run_frames`). In the server, the
notification to exit is the one message whose handler asks to stop, whatever state the
session is in, so where a session ends can be told from the bodies alone.
-/

import LanguageServer.Proofs.BuiltMessage
import LanguageServer.Proofs.Lifecycle
import LanguageServer.Proofs.Serving
import LanguageServer.Server.Session

namespace LanguageServer

open Rpc

namespace Rpc

variable {σ ν : Type}

/-- The bytes of what handling one body puts out: the frames that the handler sent, then
the frame of the reply. -/
def Handled.wire (encode : ν → Packet) (handled : Handled σ ν) : Bytes :=
  (handled.sent.map encode ++ handled.answer.packet?.toList).flatMap Packet.frame

theorem Handled.wire_eq (encode : ν → Packet) (handled : Handled σ ν) :
    handled.wire encode = handled.output.flatMap fun message => (message.packet encode).frame := by
  rw [wire, output, List.flatMap_append, List.flatMap_append, List.flatMap_map, List.flatMap_map,
    List.flatMap_map]
  rfl

/-- Where a reply is all that goes out, its frame is all that is written. -/
theorem Handled.wire_of_reply (encode : ν → Packet) {handled : Handled σ ν} {value : Json}
    {content : String} (hsent : handled.sent = []) (hreply : handled.reply = some value)
    (hprinted : value.render = content) : handled.wire encode = Frame.encode content := by
  obtain ⟨packet, hpacket, rfl⟩ := Option.map_eq_some_iff.mp hreply
  have hcontent : packet.content = content := by
    rw [← Text.ofString_inj, ← packet.printed, hprinted]
  rw [wire, hsent, hpacket, ← hcontent]
  exact List.append_nil _

theorem Output.encode_text (encode : ν → Packet) (output : List (Output ν)) :
    Utf8.encode (text encode output) =
      output.flatMap fun message => (message.packet encode).frame := by
  induction output with
  | nil => rfl
  | cons message output ih =>
      rw [text, List.map_cons, String.join_cons, Utf8.encode_append, List.flatMap_cons, ← ih]
      rfl

namespace Dispatcher

variable [NestingLimits] {dispatcher : Dispatcher σ ν} {state : σ}

/-- What handling bodies one after the other leads to, each in the state that the one
before it has left. -/
def handleAll (dispatcher : Dispatcher σ ν) (state : σ) : List String → List (Handled σ ν)
  | [] => []
  | content :: contents =>
      let handled := dispatcher.handle state content
      handled :: dispatcher.handleAll handled.state contents

theorem handleAll_cons (dispatcher : Dispatcher σ ν) (state : σ) (content : String)
    (contents : List String) :
    dispatcher.handleAll state (content :: contents) =
      dispatcher.handle state content ::
        dispatcher.handleAll (dispatcher.handle state content).state contents := rfl

theorem handleAll_take (dispatcher : Dispatcher σ ν) (state : σ) (contents : List String)
    (count : Nat) :
    dispatcher.handleAll state (contents.take count) =
      (dispatcher.handleAll state contents).take count := by
  induction contents generalizing state count with
  | nil => simp [handleAll]
  | cons content contents ih =>
      cases count with
      | zero => rfl
      | succ count =>
          rw [List.take_succ_cons, handleAll_cons, handleAll_cons, ih, List.take_succ_cons]

omit [NestingLimits] in
/-- The state that is left after some bodies have been handled. -/
def stateAfter (state : σ) (handleds : List (Handled σ ν)) : σ :=
  handleds.foldl (fun _ handled => handled.state) state

/-- The first turn over a stream that starts with a frame handles its body. -/
theorem firstTurn_encode {content : String}
    (fits : (Utf8.encode content).length ≤ Frame.greatestLength) (rest : Bytes) :
    dispatcher.firstTurn state (Frame.encode content ++ rest) =
      (dispatcher.handle state content).turn := by
  rw [firstTurn, Frame.read_encode fits, turn]

/-- The loop over a stream that starts with a frame handles its body. If nothing is raised, then
it ends there if the handler asks to stop, and else goes on behind the frame. -/
theorem run_encode {content : String} (hraised : (dispatcher.handle state content).raised = none)
    (fits : (Utf8.encode content).length ≤ Frame.greatestLength) (rest : Bytes) :
    let handled := dispatcher.handle state content
    dispatcher.run state (Frame.encode content ++ rest) =
      if handled.stop then ⟨handled.state, handled.output, handled.log, .stopped, rest⟩
      else
        let later := dispatcher.run handled.state rest
        { later with
          output := handled.output ++ later.output, log := handled.log ++ later.log } := by
  intro handled
  have hturn : dispatcher.firstTurn state (Frame.encode content ++ rest) = handled.turn :=
    firstTurn_encode fits rest
  have hending : handled.ending = if handled.stop then some .stopped else none := by
    rw [Handled.ending, hraised]
  cases hstop : handled.stop with
  | true =>
      have hends : (dispatcher.firstTurn state (Frame.encode content ++ rest)).ending =
          some .stopped := by
        rw [hturn, Handled.turn, hending, hstop, if_pos rfl]
      rw [run_of_ends hends, hturn, Frame.read_encode fits, if_pos rfl, Handled.turn]
  | false =>
      have hgoesOn : (dispatcher.firstTurn state (Frame.encode content ++ rest)).ending = none := by
        rw [hturn, Handled.turn, hending, hstop, if_neg Bool.false_ne_true]
      rw [run_of_goes_on hgoesOn, hturn, Frame.read_encode fits, if_neg Bool.false_ne_true,
        Handled.turn]

theorem run_nil (dispatcher : Dispatcher σ ν) (state : σ) :
    dispatcher.run state [] = ⟨state, [], [], .endOfStream, []⟩ := by
  have hturn : dispatcher.firstTurn state [] = { state, ending := some .endOfStream } := by
    rw [firstTurn, Frame.read_nil, turn]
  have hends : (dispatcher.firstTurn state []).ending = some .endOfStream := by rw [hturn]
  rw [run_of_ends hends, hturn, Frame.read_nil]

/-- The loop over a stream of frames handles their bodies one after the other, up to and
including the first whose handler asks to stop. If none does, then the stream has to end
with the frames for this to be all that happens. -/
theorem run_frames {contents : List String} {handleds : List (Handled σ ν)}
    (hall : dispatcher.handleAll state contents = handleds)
    (hraised : ∀ handled ∈ handleds, handled.raised = none)
    (hfits : ∀ content ∈ contents, (Utf8.encode content).length ≤ Frame.greatestLength)
    {further : Bytes} (hfurther : (∀ handled ∈ handleds, handled.stop = false) → further = []) :
    let count := handleds.findIdx (·.stop) + 1
    let run := dispatcher.run state (contents.flatMap Frame.encode ++ further)
    run.output = (handleds.take count).flatMap Handled.output ∧
      run.state = stateAfter state (handleds.take count) ∧
      run.unread = (contents.drop count).flatMap Frame.encode ++ further := by
  induction contents generalizing state handleds with
  | nil =>
      subst hall
      obtain rfl : further = [] := hfurther (by simp [handleAll])
      rw [List.flatMap_nil, List.append_nil, run_nil]
      exact ⟨rfl, rfl, rfl⟩
  | cons content contents ih =>
      subst hall
      obtain ⟨hhere, hlater⟩ := List.forall_mem_cons.mp hraised
      rw [handleAll_cons, List.flatMap_cons, List.append_assoc,
        run_encode hhere (hfits content List.mem_cons_self), List.findIdx_cons]
      cases hstop : (dispatcher.handle state content).stop with
      | true => simp [stateAfter]
      | false =>
          obtain ⟨houtput, hstate, hunread⟩ := ih rfl hlater
            (fun content hcontent => hfits content (List.mem_cons_of_mem _ hcontent))
            (fun hgoOn => hfurther (List.forall_mem_cons.mpr ⟨hstop, hgoOn⟩))
          exact ⟨congrArg ((dispatcher.handle state content).output ++ ·) houtput, hstate, hunread⟩

end Dispatcher

end Rpc

namespace Server

theorem stop_of_request? {method : Text} {handler : Handler Server Announcement}
    (h : request? method = some handler) (params : Json) (server : Server) :
    (handler params server).stop = false := by
  rw [request?] at h
  split at h
  · cases h
    rw [onStart]
    split <;> rfl
  split at h
  · cases h
    rfl
  · obtain ⟨feature, -, rfl⟩ := Option.map_eq_some_iff.mp h
    rw [onFeature]
    split
    · rfl
    split
    · rfl
    split <;> rfl

theorem stop_withDocument {params : Json} {server : Server} {act : Text → Effect}
    (h : ∀ uri, (act uri).stop = false) : (withDocument params server act).stop = false := by
  rw [withDocument]
  split
  · rfl
  · split
    · rfl
    · exact h _

end Server

variable [NestingLimits]

/-- The body is a notification to exit. -/
def asksToExit (content : Text) : Bool :=
  (messageOf? content).any (·.isNotification "exit")

namespace Server

theorem stop_publish (server : Server) (uri : Text) (diagnostics : List Diagnostic)
    (log : List Text) : (server.publish uri diagnostics log).stop = false := by
  rw [publish]
  split
  · split <;> rfl
  · rfl

theorem stop_of_notification? {method : Text} {handler : Handler Server Announcement}
    (h : notification? method = some handler) (params : Json) (server : Server) :
    (handler params server).stop = decide (method = "exit") := by
  by_cases hexit : method = "exit"
  · subst hexit
    cases h
    rfl
  rw [decide_eq_false hexit]
  rw [notification?, if_neg hexit] at h
  split at h
  · cases h
    rfl
  split at h
  · cases h
    refine stop_withDocument fun uri => ?_
    cases Sync.opened? params with
    | none => rfl
    | some document => exact stop_publish ..
  split at h
  · cases h
    refine stop_withDocument fun uri => ?_
    cases Sync.changed? params with
    | none => rfl
    | some document => exact stop_publish ..
  split at h
  · cases h
    refine stop_withDocument fun uri => ?_
    cases Sync.closed? server.documents params with
    | none => rfl
    | some closed => exact stop_publish ..
  · cases h

/-- The handler of the notification to exit asks to stop, and no other does. -/
theorem stop_handle (server : Server) (content : Text) :
    (server.handle content).stop = asksToExit content := by
  rw [handle, asksToExit, messageOf?]
  cases hread : Message.readBody content with
  | error fault =>
      rw [Dispatcher.handle_of_readBody_error dispatcher server hread]
      rfl
  | ok value =>
      rw [Dispatcher.handle_of_readBody dispatcher server hread]
      by_cases hnull : value = .null
      · subst hnull
        rfl
      · rw [Dispatcher.handleBody_of_ne_null _ _ hnull, Dispatcher.handleValue]
        simp only [Except.toOption, Option.map_some, Option.any_some]
        cases Message.classify value with
        | request id method params =>
            simp only [Dispatcher.answer]
            split
            · rfl
            · next handler hhandler => exact stop_of_request? hhandler _ server
        | notification method params =>
            simp only [Dispatcher.notice]
            split
            · next hnone =>
                -- There is a handler for the notification to exit.
                refine (decide_eq_false ?_).symm
                rintro rfl
                cases hnone
            · next handler hhandler => exact stop_of_notification? hhandler _ server
        | response | invalid => rfl

theorem map_stop_handleAll (server : Server) (contents : List String) :
    (dispatcher.handleAll server contents).map (·.stop) =
      (contents.map Text.ofString).map asksToExit := by
  induction contents generalizing server with
  | nil => rfl
  | cons content contents ih =>
      rw [Dispatcher.handleAll_cons, List.map_cons, List.map_cons, List.map_cons, ih]
      exact congrArg (· :: _) (server.stop_handle content)

theorem stateAfter_handleAll (server : Server) (contents : List String) :
    Dispatcher.stateAfter server (dispatcher.handleAll server contents) =
      server.follows (Conversation.messages (contents.map Text.ofString)) := by
  induction contents generalizing server with
  | nil => rfl
  | cons content contents ih =>
      have heffect := congrArg Prod.fst (server.handle_effect content)
      have hstate :
          Dispatcher.stateAfter server (dispatcher.handleAll server (content :: contents)) =
          (server.handle content).state.follows
            (Conversation.messages (contents.map Text.ofString)) := ih _
      rw [hstate, List.map_cons]
      cases hmessage : messageOf? content with
      | none =>
          rw [hmessage] at heffect
          rw [Conversation.messages, Conversation.messages, List.filterMap_cons_none hmessage]
          exact congrArg (fun server : Server => server.follows _) heffect
      | some message =>
          rw [hmessage] at heffect
          rw [Conversation.messages, Conversation.messages, List.filterMap_cons_some hmessage,
            follows_cons]
          exact congrArg (fun server : Server => server.follows _) heffect

end Server

namespace Session

/-- After one more message, the exit code is told by whether a shutdown has been asked for,
also if this message is a notification to exit. -/
theorem exitCodeOf_follow {server : Server} (h : server.exitCode = none) (message : Message) :
    exitCodeOf (server.follow message).1 =
      if (server.follow message).1.shutdownRequested then 0 else 1 := by
  rw [exitCodeOf, Server.exitCode_follow]
  cases hexit : message.isNotification "exit" with
  | false => simp [h]
  | true =>
      have hother : message.isRequest "shutdown" = false := by
        cases message with
        | notification => rfl
        | request | response | invalid => cases hexit
      simp [Server.shutdownRequested_follow, hother]

/-- Up to the first notification to exit, the exit code is told by whether a shutdown has
been asked for. -/
theorem exitCodeOf_follows {server : Server} (h : server.exitCode = none) (contents : List Text) :
    let heard := Conversation.messages (contents.take (contents.findIdx asksToExit + 1))
    exitCodeOf (server.follows heard) =
      if (server.follows heard).shutdownRequested then 0 else 1 := by
  induction contents generalizing server with
  | nil => simp [Conversation.messages, Server.follows, exitCodeOf, h]
  | cons content contents ih =>
      rw [List.findIdx_cons, List.take_succ_cons]
      cases hmessage : messageOf? content with
      | none =>
          have hother : asksToExit content = false := by rw [asksToExit, hmessage, Option.any_none]
          rw [hother, Conversation.messages, List.filterMap_cons_none hmessage]
          exact ih h
      | some message =>
          rw [Conversation.messages, List.filterMap_cons_some hmessage]
          simp only [Server.follows_cons]
          cases hexit : asksToExit content with
          | true => exact exitCodeOf_follow h message
          | false =>
              have hother : message.isNotification "exit" = false := by
                rwa [asksToExit, hmessage, Option.any_some] at hexit
              refine ih ?_
              rw [Server.exitCode_follow, hother]
              exact h

/-- A session over a stream of frames does what its bodies do one after the other. Where
handling some bodies on a fresh server raises nothing, the session over their frames hears them
up to and including the first notification to exit, or else all of them. Body by body it
puts out the frames that were sent while the body was handled and then its reply, byte by
byte. It consumes nothing behind the last frame that it hears, whatever the bytes there
are; with no notification to exit, the stream is to end with the frames. The exit code is
zero if one of the messages heard is a request to shut down, and one if none is. -/
theorem frames_served_in_order (settings : Settings) {contents : List String}
    (hraised : ∀ handled ∈ Server.dispatcher.handleAll { settings } contents,
      handled.raised = none)
    (hfits : ∀ content ∈ contents, (Utf8.encode content).length ≤ Frame.greatestLength)
    {further : Bytes}
    (hfurther : (∀ content ∈ contents, asksToExit content = false) → further = []) :
    let handleds := Server.dispatcher.handleAll { settings } contents
    let count := (contents.map Text.ofString).findIdx asksToExit + 1
    let heard := Conversation.messages ((contents.take count).map Text.ofString)
    let session := run settings (contents.flatMap Frame.encode ++ further)
    Utf8.encode session.outputText =
        (handleds.take count).flatMap (Handled.wire Announcement.packet) ∧
      session.unread = (contents.drop count).flatMap Frame.encode ++ further ∧
      session.exitCode = if heard.any (·.isRequest "shutdown") then 0 else 1 := by
  intro handleds count heard session
  have hstops : handleds.map (·.stop) = (contents.map Text.ofString).map asksToExit :=
    Server.map_stop_handleAll { settings } contents
  have hcount : handleds.findIdx (·.stop) + 1 = count := by
    have hmap := congrArg (List.findIdx id) hstops
    rw [List.findIdx_map, List.findIdx_map] at hmap
    exact congrArg (· + 1) hmap
  have hnoExit : (∀ handled ∈ handleds, handled.stop = false) → further = [] := by
    intro hgoOn
    refine hfurther fun content hcontent => ?_
    have hmem : asksToExit content ∈ handleds.map (·.stop) := by
      rw [hstops]
      exact List.mem_map_of_mem (List.mem_map_of_mem hcontent)
    obtain ⟨handled, hhandled, hsame⟩ := List.mem_map.mp hmem
    exact hsame ▸ hgoOn handled hhandled
  obtain ⟨houtput, hstate, hunread⟩ := Dispatcher.run_frames rfl hraised hfits hnoExit
  rw [hcount] at houtput hstate hunread
  have hserver : (Server.dispatcher.run { settings }
      (contents.flatMap Frame.encode ++ further)).state = Server.follows { settings } heard := by
    rw [hstate, ← Dispatcher.handleAll_take]
    exact Server.stateAfter_handleAll { settings } (contents.take count)
  have hshutdown : (Server.follows { settings } heard).shutdownRequested =
      heard.any (·.isRequest "shutdown") :=
    (Server.lifecycle_follows settings heard).shutdownRequested
  refine ⟨?_, hunread, ?_⟩
  · have hsent : session.output = (handleds.take count).flatMap Handled.output := houtput
    rw [outputText, Output.encode_text, hsent, List.flatMap_assoc]
    exact congrArg (List.flatMap · (handleds.take count))
      (funext fun handled => (handled.wire_eq Announcement.packet).symm)
  · have hexitCode : session.exitCode = exitCodeOf (Server.follows { settings } heard) :=
      congrArg exitCodeOf hserver
    have hheard : heard = Conversation.messages ((contents.map Text.ofString).take
        ((contents.map Text.ofString).findIdx asksToExit + 1)) :=
      congrArg Conversation.messages List.map_take
    rw [hexitCode, hheard, exitCodeOf_follows rfl, ← hheard, hshutdown]

omit [NestingLimits] in
/-- What follows a notification to exit stays in the stream, a frame as well as a byte that
begins no text. The shutdown asked for before it is answered and makes the exit code zero. -/
theorem rest_unread_after_exit :
    letI : NestingLimits := .usual
    let shutdown := "\x7b\"jsonrpc\": \"2.0\", \"id\": 1, \"method\": \"shutdown\"\x7d"
    let exit := "\x7b\"jsonrpc\": \"2.0\", \"method\": \"exit\"\x7d"
    let contents := [shutdown, exit, shutdown]
    let session := run {} (contents.flatMap Frame.encode ++ [0xFF])
    Utf8.encode session.outputText =
        Frame.encode "\x7b\"jsonrpc\": \"2.0\", \"id\": 1, \"result\": null\x7d" ∧
      session.unread = Frame.encode shutdown ++ [0xFF] ∧ session.exitCode = 0 := by
  intro shutdown exit contents session
  let _ : NestingLimits := .usual
  let asking : Json := .obj [("jsonrpc", .str "2.0"), ("id", .int 1), ("method", .str "shutdown")]
  let leaving : Json := .obj [("jsonrpc", .str "2.0"), ("method", .str "exit")]
  have hplain : asking.Plain 1 ∧ leaving.Plain 1 := by
    simp [asking, leaving]
    decide
  have hshutdown : (shutdown : Text) = asking.render := by decide
  have hexit : (exit : Text) = leaving.render := by decide
  have hask : messageOf? shutdown = some (.request (.int 1) "shutdown" none) := by
    rw [hshutdown]
    exact messageOf?_render hplain.1 (by decide)
  have hread : Message.readBody exit = .ok leaving := by
    rw [hexit]
    exact Message.readBody_of_read (Json.read_render hplain.2 (by decide))
  have hleave : messageOf? exit = some (.notification "exit" none) :=
    messageOf?_eq_some_iff.mpr ⟨_, hread, rfl⟩
  have hstay : asksToExit shutdown = false := by rw [asksToExit, hask]; rfl
  have hgo : asksToExit exit = true := by rw [asksToExit, hleave]; rfl
  have hcount : (contents.map Text.ofString).findIdx asksToExit = 1 := by
    simp [contents, List.findIdx_cons, hstay, hgo]
  have hdelivered (server : Server) :
      Delivered (.int 1) (.ok .null) (server.handle shutdown) := by
    rw [Server.handle_request hask]
    exact server.delivered_shutdown (.int 1) none
  have hid : (Id.int 1).Sendable := by decide
  have hraised : ∀ handled ∈ Server.dispatcher.handleAll {} contents, handled.raised = none := by
    have hanswered (server : Server) : (server.handle shutdown).raised = none := by
      by_contra hne
      exact (hdelivered server).raised_iff.mp hne hid
    have hnoted (server : Server) : (server.handle exit).raised = none := by
      rw [Server.handle, Dispatcher.handle_of_readBody _ _ hread]
      rfl
    simp only [contents, Dispatcher.handleAll, List.forall_mem_cons]
    exact ⟨hanswered _, hnoted _, hanswered _, List.forall_mem_nil _⟩
  have hfits : ∀ content ∈ contents, (Utf8.encode content).length ≤ Frame.greatestLength := by
    simp only [contents, List.forall_mem_cons]
    decide
  have hfurther : (∀ content ∈ contents, asksToExit content = false) → ([0xFF] : Bytes) = [] := by
    intro hnone
    have hstays : asksToExit exit = false := hnone _ (List.mem_cons_of_mem _ List.mem_cons_self)
    cases hgo.symm.trans hstays
  obtain ⟨hwire, hunread, hexitCode⟩ := frames_served_in_order {} hraised hfits hfurther
  rw [hcount] at hwire hunread hexitCode
  refine ⟨?_, ?_, ?_⟩
  · have hreply : (Server.handle {} shutdown).reply = some (success (.int 1) .null) :=
      (hdelivered {}).reply_iff.mpr ⟨hid, .null⟩
    have hsent : (Server.handle {} shutdown).sent = [] := by
      rw [Server.handle_request hask]
      rfl
    have hsilent (server : Server) :
        (Server.dispatcher.handle server exit).wire Announcement.packet = [] := by
      rw [Dispatcher.handle_of_readBody _ _ hread]
      rfl
    have hframe : (Server.dispatcher.handle {} shutdown).wire Announcement.packet =
        Frame.encode "\x7b\"jsonrpc\": \"2.0\", \"id\": 1, \"result\": null\x7d" :=
      Handled.wire_of_reply _ hsent hreply (by decide)
    rw [hwire]
    simp only [contents, Dispatcher.handleAll, List.take_succ_cons, List.take_zero,
      List.flatMap_cons, List.flatMap_nil, hframe, hsilent]
    exact List.append_nil _
  · rw [hunread]
    simp [contents]
  · rw [hexitCode]
    simp [contents, Conversation.messages, hask, hleave, Message.isRequest]

end Session

end LanguageServer
