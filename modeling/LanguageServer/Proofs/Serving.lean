/-
# Serving a stream to its end

A frame that is defective (`Defective`) is answered with a failure to parse, and the frame after
it is read next. What breaks the loop are limits on both ways (`Breaks`): a header with a number
that has too many digits or that no stream position can reach, a body with such a number or with
too many containers in each other, and a refusal that is due and cannot be sent. All of
them do. A loop that does not come to such a place ends with the stream, or because a handler
asked to stop.

How far the loop has come is told by `Dispatcher.Passes`, which collects what has gone
out on the way. The result about the whole loop then follows from what one turn does
at the place that has been reached.
-/

import LanguageServer.Proofs.Dispatch
import LanguageServer.Proofs.Framing
import LanguageServer.Proofs.ReadLimit

namespace LanguageServer

namespace Frame

/-- A stream that starts with a whole frame around a body: headers that announce its
length, the blank line, and all its bytes. -/
def HoldsFrame (body rest input : Bytes) : Prop :=
  ∃ lines, StartsWith lines (body ++ rest) input ∧
    announcedAfter .missing lines = .ok (.length body.length) ∧ body.length ≤ greatestLength

/-- A whole frame is read as its body, or rejected for what its body is. -/
theorem read_of_holdsFrame {body rest input : Bytes} (h : HoldsFrame body rest input) :
    read input =
      match Utf8.decode body with
      | .ok content => (.body content, rest)
      | .error fault => (.rejected (.notUtf8 fault), rest) := by
  obtain ⟨lines, hstarts, hlines, hfits⟩ := h
  have hheaders : readHeaders .missing input = (.complete (.length body.length), body ++ rest) :=
    readHeaders_eq_complete_iff.mpr ⟨lines, hstarts, hlines⟩
  rw [read, hheaders]
  exact readBody_append hfits rest

/-- A body is what a whole frame holds. -/
theorem read_eq_body_iff {input rest : Bytes} {content : String} :
    read input = (.body content, rest) ↔ HoldsFrame (Utf8.encode content) rest input := by
  constructor
  · intro h
    rw [read] at h
    split at h
    · cases h
    · cases h
    · cases h
    · cases h
    · next n unread hheaders =>
        obtain ⟨lines, hstarts, hlines⟩ := readHeaders_eq_complete_iff.mp hheaders
        rw [readBody] at h
        split at h
        · cases h
        split at h
        · cases h
        · next hreachable hwhole =>
            split at h
            · next hdecode =>
                cases h
                have hbody : unread.take n = Utf8.encode content := Utf8.decode_eq_ok_iff.mp hdecode
                have hlength : (Utf8.encode content).length = n := by
                  rw [← hbody, List.length_take]
                  rw [List.length_take] at hwhole
                  omega
                refine ⟨lines, ?_, ?_, ?_⟩
                · rw [← hbody, List.take_append_drop]
                  exact hstarts
                · rw [hlength]
                  exact hlines
                · omega
            · cases h
  · intro h
    rw [read_of_holdsFrame h, Utf8.decode_encode]

/-- A stream from which no frame can be read. Either a header line after fine ones
announces a numeral with too many digits, and this may be the unfinished last line of
the stream; or the headers announce a length that no stream position can reach. -/
inductive Unreadable : Bytes → Breakdown → Prop
  | numeral {lines : List HeaderLine} {line : HeaderLine} {announced : Announced}
      {tail rest : Bytes} {numeral : List Char}
      (hlines : announcedAfter .missing lines = .ok announced) (hend : LineEnd tail rest)
      (hline : line.Announces numeral) (hlong : Decimal.digitLimit < numeral.length) :
      Unreadable (wireLines lines ++ (line.bytes ++ tail)) (.oversized ⟨numeral.length⟩)
  | length {lines : List HeaderLine} {rest input : Bytes} {n : Nat}
      (hstarts : StartsWith lines rest input)
      (hlines : announcedAfter .missing lines = .ok (.length n))
      (hunreachable : greatestLength < n) : Unreadable input .unreachable

/-- Reading breaks down exactly at a stream from which no frame can be read. -/
theorem read_broken_iff {input : Bytes} {cause : Breakdown} :
    (read input).1 = .broken cause ↔ Unreadable input cause := by
  constructor
  · intro h
    rw [read] at h
    split at h
    · cases h
    · next fault rest hheaders =>
        cases h
        obtain ⟨lines, line, tail, announced, hend, rfl, hlines, hline⟩ :=
          readHeaders_eq_broken_iff.mp hheaders
        obtain ⟨numeral, hannounces, hlong, rfl⟩ := HeaderLine.after_eq_error_iff.mp hline
        exact .numeral hlines hend hannounces hlong
    · cases h
    · cases h
    · next n rest hheaders =>
        obtain ⟨lines, hstarts, hlines⟩ := readHeaders_eq_complete_iff.mp hheaders
        rw [readBody] at h
        split at h
        · next hunreachable =>
            cases h
            exact .length hstarts hlines hunreachable
        · split at h
          · cases h
          · split at h <;> cases h
  · intro h
    cases h with
    | @numeral lines line announced tail rest numeral hlines hend hline hlong =>
        have hafter : announced.after line.text = .error ⟨numeral.length⟩ :=
          HeaderLine.after_eq_error_iff.mpr ⟨numeral, hline, hlong, rfl⟩
        have hheaders : readHeaders .missing (wireLines lines ++ (line.bytes ++ tail)) =
            (.broken ⟨numeral.length⟩, rest) :=
          readHeaders_eq_broken_iff.mpr ⟨lines, line, tail, announced, hend, rfl, hlines, hafter⟩
        rw [read, hheaders]
    | @length lines rest input n hstarts hlines hunreachable =>
        have hheaders : readHeaders .missing input = (.complete (.length n), rest) :=
          readHeaders_eq_complete_iff.mpr ⟨lines, hstarts, hlines⟩
        rw [read, hheaders]
        simp only [readBody, if_pos hunreachable]

end Frame

namespace Rpc

open LanguageServer.Frame

section

variable {σ ν : Type} [NestingLimits]

/-- What breaks the loop in a state, and how the loop ends: no frame can be read from the stream;
or it starts with a whole frame in whose body the reader meets a limit, by an integer with too many
digits or by a container too deep inside others; or it starts with a whole frame whose body is to
be refused, while the refusal cannot be sent because the id cannot, or the failure cannot. -/
inductive Breaks (dispatcher : Dispatcher σ ν) (state : σ) : Bytes → Ending → Prop
  | frame {input : Bytes} {cause : Breakdown} (hframe : Unreadable input cause) :
      Breaks dispatcher state input (.broken cause)
  | number {input rest : Bytes} {content : String} {fault : Decimal.Oversized}
      (hframe : HoldsFrame (Utf8.encode content) rest input)
      (hbody : Json.MeetsLimit NestingLimits.reading (.value [])
        (Json.tokens (Text.ofString content).toList) (.oversized fault))
      (hlong : Decimal.digitLimit < fault.digits) :
      Breaks dispatcher state input (.raised (.unread (.oversized fault)))
  | nesting {input rest : Bytes} {content : String} {container : Json.Container}
      (hframe : HoldsFrame (Utf8.encode content) rest input)
      (hbody : Json.MeetsLimit NestingLimits.reading (.value [])
        (Json.tokens (Text.ofString content).toList) (.tooDeep container)) :
      Breaks dispatcher state input (.raised (.unread (.tooDeep container)))
  | refusal {input rest : Bytes} {content : String} {value : Json} {failure : Failure}
      {fault : BuildFault} (hframe : HoldsFrame (Utf8.encode content) rest input)
      (hbody : Message.readBody content = .ok value)
      (hdue : dispatcher.verdict? state value = some (.error failure))
      (hunsendable : (∃ id, Message.recoveredId value = some id ∧ ¬id.Sendable) ∨
        ¬failure.Sendable)
      (hfault : build (refusal (Id.orNull (Message.recoveredId value)) failure) = .error fault) :
      Breaks dispatcher state input (.raised (.unbuilt fault))

end

/-- A stream that starts with a defective frame, and what follows the frame: headers
that announce no length or no proper one, a body that is not UTF-8, or a body that is
no JSON (the word `null` counts as none). -/
inductive Defective [NestingLimits] : Bytes → Bytes → Prop
  | headers {lines : List HeaderLine} {announced : Announced} {input rest : Bytes}
      (hstarts : StartsWith lines rest input)
      (hlines : announcedAfter .missing lines = .ok announced)
      (hlength : announced = .missing ∨ announced = .invalid) : Defective input rest
  | encoding {body rest input : Bytes} (hframe : HoldsFrame body rest input)
      (hforeign : ∀ content, body ≠ Utf8.encode content) : Defective input rest
  | json {content : String} {rest input : Bytes}
      (hframe : HoldsFrame (Utf8.encode content) rest input)
      (hbody : Message.readBody content = .ok .null) : Defective input rest

/-- A message that tells of a failure to parse. -/
def Packet.TellsParseFailure (packet : Packet) : Prop :=
  ∃ failure : Failure, failure.code = ErrorCode.parseError.toInt ∧
    packet.value = refusal .null failure

variable [NestingLimits]

/-- A body has no value exactly if the reader meets a limit in it. -/
theorem readBody_eq_error_iff {content : Text} {fault : BodyFault} :
    Message.readBody content = .error fault ↔
      Json.MeetsLimit NestingLimits.reading (.value []) (Json.tokens content.toList)
        (match fault with
          | .oversized fault => .oversized fault
          | .tooDeep container => .tooDeep container) := by
  cases fault <;>
    · rw [← Json.read_eq_error_iff Json.ReadFault.noConfusion, Message.readBody]
      cases Json.read NestingLimits.reading content with
      | ok value => simp
      | error fault' => cases fault' <;> simp

namespace Dispatcher

variable {σ ν : Type} {dispatcher : Dispatcher σ ν} {state : σ} {input : Bytes}

/-- Handling a value fails for the refusal that is due and cannot be built. -/
theorem raised_handleBody_eq_some_iff {value : Json} {cause : Uncaught} :
    (dispatcher.handleBody state value).raised = some cause ↔
      ∃ failure fault, dispatcher.verdict? state value = some (.error failure) ∧
        build (refusal (Id.orNull (Message.recoveredId value)) failure) = .error fault ∧
          cause = .unbuilt fault := by
  rw [Handled.raised, answer_handleBody]
  cases hverdict : dispatcher.verdict? state value with
  | none => simp [answerBy, Answer.raised?]
  | some verdict =>
      rw [answerBy]
      cases verdict with
      | ok result =>
          rw [replyTo, Answer.raised?_ofValue_eq_none_iff.mpr (sendable_of_verdict? hverdict)]
          simp
      | error failure =>
          rw [replyTo, Answer.ofValue]
          cases hbuild : build (refusal (Id.orNull (Message.recoveredId value)) failure) <;>
            simp [Answer.raised?, hbuild, eq_comm]

/-- What the first frame of a stream leads to. -/
def firstTurn (dispatcher : Dispatcher σ ν) (state : σ) (input : Bytes) : Turn σ ν :=
  dispatcher.turn state (Frame.read input).1

/-- A stream that breaks the loop does so in its first turn. -/
theorem firstTurn_of_breaks {ending : Ending} (h : Breaks dispatcher state input ending) :
    (dispatcher.firstTurn state input).ending = some ending := by
  rw [firstTurn]
  cases h with
  | frame hframe => rw [read_broken_iff.mpr hframe, turn]
  | @number rest content fault hframe hbody =>
      have hread := (@readBody_eq_error_iff _ _ (.oversized fault)).mpr hbody
      rw [read_eq_body_iff.mpr hframe, turn, handle_of_readBody_error dispatcher state hread]
      rfl
  | @nesting rest content container hframe hbody =>
      have hread := (@readBody_eq_error_iff _ _ (.tooDeep container)).mpr hbody
      rw [read_eq_body_iff.mpr hframe, turn, handle_of_readBody_error dispatcher state hread]
      rfl
  | refusal hframe hbody hdue _ hfault =>
      have hraised := raised_handleBody_eq_some_iff.mpr ⟨_, _, hdue, hfault, rfl⟩
      rw [read_eq_body_iff.mpr hframe, turn, handle_of_readBody dispatcher state hbody,
        Handled.turn, Handled.ending, hraised]

/-- Handling a body breaks the loop only by a limit that the reader meets or by a refusal that
cannot be sent. -/
theorem breaks_of_raised {content : String} {cause : Uncaught} {rest : Bytes}
    (hframe : HoldsFrame (Utf8.encode content) rest input)
    (h : (dispatcher.handle state content).raised = some cause) :
    Breaks dispatcher state input (.raised cause) := by
  cases hbody : Message.readBody content with
  | error fault =>
      rw [handle_of_readBody_error dispatcher state hbody] at h
      cases h
      have hlimit := readBody_eq_error_iff.mp hbody
      cases fault with
      | oversized fault => exact .number hframe hlimit hlimit.digitLimit_lt
      | tooDeep container => exact .nesting hframe hlimit
  | ok value =>
      rw [handle_of_readBody dispatcher state hbody] at h
      obtain ⟨failure, fault, hdue, hfault, rfl⟩ := raised_handleBody_eq_some_iff.mp h
      have hne : (dispatcher.handleBody state value).raised ≠ none := h ▸ Option.some_ne_none _
      obtain ⟨failure', hdue', hunsendable⟩ := raised_handleBody_iff.mp hne
      cases hdue.symm.trans hdue'
      exact .refusal hframe hbody hdue hunsendable hfault

/-- A failure to parse can always be reported, and the loop goes on after the report. -/
theorem exists_turn_unparsed (state : σ) {message : Text} (log : List Text)
    (hwhole : message.holdsHalf = false) :
    ∃ packet : Packet, packet.TellsParseFailure ∧
      ({ state, answer := .ofValue (refusal .null (ErrorCode.parseError.failure message)), log } :
        Handled σ ν).turn = { state, output := [.reply packet], log } := by
  obtain ⟨packet, hbuild⟩ :=
    exists_build_eq_ok_iff.mpr (@sendable_refusal_null _ .parseError _ hwhole)
  refine ⟨packet, ⟨_, rfl, value_of_build hbuild⟩, ?_⟩
  simp only [Handled.turn, Handled.output, Handled.ending, Handled.raised, Answer.ofValue, hbuild]
  rfl

/-- A rejected frame is reported, and the loop goes on after it. -/
theorem turn_rejected (dispatcher : Dispatcher σ ν) (state : σ) (fault : Frame.Fault) :
    ∃ packet : Packet, packet.TellsParseFailure ∧
      dispatcher.turn state (.rejected fault) =
        { state
          output := [.reply packet]
          log := ["Transport error: " ++ (fault.message : Text)] } :=
  exists_turn_unparsed state _ (Text.holdsHalf_ofString fault.message)

/-- A turn ends the loop at the end of the stream, by a handler that asks for it, or where the
stream breaks the loop. -/
theorem firstTurn_cases {ending : Ending}
    (h : (dispatcher.firstTurn state input).ending = some ending) :
    ending = .endOfStream ∨ ending = .stopped ∨ Breaks dispatcher state input ending := by
  rw [firstTurn] at h
  cases hread : (Frame.read input).1 with
  | finished =>
      rw [hread] at h
      cases h
      exact Or.inl rfl
  | broken cause =>
      rw [hread] at h
      cases h
      exact Or.inr (Or.inr (.frame (read_broken_iff.mp hread)))
  | rejected fault =>
      obtain ⟨packet, -, hturn⟩ := turn_rejected dispatcher state fault
      rw [hread, hturn] at h
      cases h
  | body content =>
      have hframe : HoldsFrame (Utf8.encode content) (Frame.read input).2 input :=
        read_eq_body_iff.mp (Prod.ext hread rfl)
      rw [hread, turn, Handled.turn, Handled.ending] at h
      cases hraised : (dispatcher.handle state content).raised with
      | some cause =>
          rw [hraised] at h
          cases h
          exact Or.inr (Or.inr (breaks_of_raised hframe hraised))
      | none =>
          rw [hraised] at h
          simp only [Option.ite_none_right_eq_some, Option.some.injEq] at h
          exact Or.inr (Or.inl h.2.symm)

/-- A defective frame is answered with a failure to parse, and the loop goes on after
it in the same state. -/
theorem firstTurn_defective (dispatcher : Dispatcher σ ν) (state : σ) {rest : Bytes}
    (h : Defective input rest) :
    (Frame.read input).2 = rest ∧ ∃ packet : Packet, ∃ log, packet.TellsParseFailure ∧
      dispatcher.firstTurn state input = { state, output := [.reply packet], log } := by
  have hrejected {fault : Frame.Fault} (hread : Frame.read input = (.rejected fault, rest)) :
      (Frame.read input).2 = rest ∧ ∃ packet : Packet, ∃ log, packet.TellsParseFailure ∧
        dispatcher.firstTurn state input = { state, output := [.reply packet], log } := by
    obtain ⟨packet, htells, hturn⟩ := turn_rejected dispatcher state fault
    rw [firstTurn, hread]
    exact ⟨rfl, packet, _, htells, hturn⟩
  cases h with
  | @headers lines announced _ _ hstarts hlines hlength =>
      have hheaders : readHeaders .missing input = (.complete announced, rest) :=
        readHeaders_eq_complete_iff.mpr ⟨lines, hstarts, hlines⟩
      rcases hlength with rfl | rfl
      · exact hrejected (by rw [Frame.read, hheaders])
      · exact hrejected (by rw [Frame.read, hheaders])
  | encoding hframe hforeign =>
      obtain ⟨fault, hdecode⟩ := Utf8.exists_decode_eq_error hforeign
      exact hrejected (by rw [read_of_holdsFrame hframe, hdecode])
  | json hframe hbody =>
      obtain ⟨packet, htells, hturn⟩ :=
        @exists_turn_unparsed _ _ _ state _ [] (Text.holdsHalf_ofString "Invalid JSON")
      rw [firstTurn, read_eq_body_iff.mpr hframe, turn, handle_of_readBody dispatcher state hbody]
      exact ⟨rfl, packet, _, htells, hturn⟩

theorem run_of_ends {ending : Ending}
    (h : (dispatcher.firstTurn state input).ending = some ending) :
    dispatcher.run state input =
      ⟨(dispatcher.firstTurn state input).state, (dispatcher.firstTurn state input).output,
        (dispatcher.firstTurn state input).log, ending, (Frame.read input).2⟩ := by
  rw [run]
  dsimp only
  split
  · next ending' hending =>
      obtain rfl : ending = ending' := Option.some.inj (h.symm.trans hending)
      rfl
  · next hnone => cases h.symm.trans hnone

theorem run_of_goes_on (h : (dispatcher.firstTurn state input).ending = none) :
    dispatcher.run state input =
      let turn := dispatcher.firstTurn state input
      let later := dispatcher.run turn.state (Frame.read input).2
      { later with output := turn.output ++ later.output, log := turn.log ++ later.log } := by
  rw [run]
  dsimp only
  split
  · next ending hending => cases h.symm.trans hending
  · rfl

/-- The loop comes from one state and stream to others, with the output on the way.
Every turn that it takes is one after which it goes on. -/
inductive Passes (dispatcher : Dispatcher σ ν) :
    σ → Bytes → List (Output ν) → σ → Bytes → Prop
  | here (state : σ) (input : Bytes) : Passes dispatcher state input [] state input
  | turn {state state' : σ} {input rest : Bytes} {output : List (Output ν)}
      (hgoesOn : (dispatcher.firstTurn state input).ending = none)
      (hlater : Passes dispatcher (dispatcher.firstTurn state input).state (Frame.read input).2
        output state' rest) :
      Passes dispatcher state input ((dispatcher.firstTurn state input).output ++ output)
        state' rest

theorem passes_defective (dispatcher : Dispatcher σ ν) (state : σ) {rest : Bytes}
    (h : Defective input rest) :
    ∃ packet : Packet, packet.TellsParseFailure ∧
      dispatcher.Passes state input [.reply packet] state rest := by
  obtain ⟨rfl, packet, log, htells, hturn⟩ := firstTurn_defective dispatcher state h
  have hgoesOn : (dispatcher.firstTurn state input).ending = none := by rw [hturn]
  have hlater : dispatcher.Passes (dispatcher.firstTurn state input).state (Frame.read input).2 []
      state (Frame.read input).2 := by
    rw [hturn]
    exact .here _ _
  have hpasses := Passes.turn hgoesOn hlater
  rw [hturn] at hpasses
  exact ⟨packet, htells, hpasses⟩

/-- The loop does from a place that it comes to what it does from there on. -/
theorem run_of_passes {passed : List (Output ν)} {state' : σ} {rest : Bytes}
    (h : dispatcher.Passes state input passed state' rest) :
    (dispatcher.run state input).output = passed ++ (dispatcher.run state' rest).output ∧
      (dispatcher.run state input).ending = (dispatcher.run state' rest).ending := by
  induction h with
  | here state input => exact ⟨rfl, rfl⟩
  | turn hgoesOn hlater ih =>
      obtain ⟨houtput, hending⟩ := ih
      rw [run_of_goes_on hgoesOn]
      refine ⟨?_, hending⟩
      rw [List.append_assoc, ← houtput]

/-- What holds where a turn ends the loop, and where it goes on if it holds after the turn, holds
everywhere. These are the cases of the loop. -/
@[elab_as_elim]
theorem run_induction (dispatcher : Dispatcher σ ν) {motive : σ → Bytes → Prop}
    (ends : ∀ state input ending, (dispatcher.firstTurn state input).ending = some ending →
      motive state input)
    (goesOn : ∀ state input, (dispatcher.firstTurn state input).ending = none →
      motive (dispatcher.firstTurn state input).state (Frame.read input).2 → motive state input)
    (state : σ) (input : Bytes) : motive state input := by
  induction hlength : input.length using Nat.strongRecOn generalizing state input with
  | _ length ih =>
      cases hending : (dispatcher.firstTurn state input).ending with
      | some ending => exact ends state input ending hending
      | none =>
          have hshorter : (Frame.read input).2.length < length :=
            hlength ▸ length_read_lt rfl (goesOn_of_turn_ending_eq_none hending)
          exact goesOn state input hending (ih _ hshorter _ _ rfl)

/-- The loop comes to the place at which it ends. -/
theorem exists_passes_to_end (dispatcher : Dispatcher σ ν) (state : σ) (input : Bytes) :
    ∃ passed state' rest, dispatcher.Passes state input passed state' rest ∧
      (dispatcher.firstTurn state' rest).ending = some (dispatcher.run state input).ending := by
  induction state, input using run_induction dispatcher with
  | ends state input ending hending =>
      refine ⟨[], state, input, .here state input, ?_⟩
      rw [hending, run_of_ends hending]
  | goesOn state input hending ih =>
      obtain ⟨passed, state', rest, hpasses, hend⟩ := ih
      refine ⟨_, state', rest, .turn hending hpasses, ?_⟩
      rw [hend, run_of_goes_on hending]

/-- When the loop breaks. It does so exactly if it comes to a place at which the stream
breaks it, and it ends as is said there; a loop that comes to no such place ends with the
stream or when it is asked to stop. Wherever it comes, a defective frame is answered
with a failure to parse, and the loop goes on with what follows the frame. -/
theorem run_breaks_exactly (dispatcher : Dispatcher σ ν) (state : σ) (input : Bytes) :
    ((dispatcher.run state input).ending = .endOfStream ∨
      (dispatcher.run state input).ending = .stopped ↔
        ∀ passed state' rest ending, dispatcher.Passes state input passed state' rest →
          ¬Breaks dispatcher state' rest ending) ∧
    (∀ passed state' rest ending, dispatcher.Passes state input passed state' rest →
      Breaks dispatcher state' rest ending → (dispatcher.run state input).ending = ending) ∧
    (∀ passed state' rest rest', dispatcher.Passes state input passed state' rest →
      Defective rest rest' →
      ∃ packet : Packet, packet.TellsParseFailure ∧
        (dispatcher.run state input).output =
          passed ++ .reply packet :: (dispatcher.run state' rest').output ∧
        (dispatcher.run state input).ending = (dispatcher.run state' rest').ending) := by
  have hbroken : ∀ passed state' rest ending, dispatcher.Passes state input passed state' rest →
      Breaks dispatcher state' rest ending → (dispatcher.run state input).ending = ending := by
    intro passed state' rest ending hpasses hbreaks
    rw [(run_of_passes hpasses).2, run_of_ends (firstTurn_of_breaks hbreaks)]
  refine ⟨⟨?_, ?_⟩, hbroken, ?_⟩
  · rintro hends passed state' rest ending hpasses hbreaks
    rw [hbroken _ _ _ _ hpasses hbreaks] at hends
    rcases hends with rfl | rfl
    · cases hbreaks
    · cases hbreaks
  · intro hsound
    obtain ⟨passed, state', rest, hpasses, hend⟩ := exists_passes_to_end dispatcher state input
    rcases firstTurn_cases hend with hends | hstopped | hbreaks
    · exact Or.inl hends
    · exact Or.inr hstopped
    · exact absurd hbreaks (hsound _ _ _ _ hpasses)
  · intro passed state' rest rest' hpasses hdefective
    obtain ⟨packet, htells, hanswered⟩ := passes_defective dispatcher state' hdefective
    obtain ⟨houtput, hending⟩ := run_of_passes hpasses
    obtain ⟨houtput', hending'⟩ := run_of_passes hanswered
    refine ⟨packet, htells, ?_, hending.trans hending'⟩
    rw [houtput, houtput', List.singleton_append]

omit [NestingLimits] in
/-- A length one above the greatest breaks a loop at once, although nothing is wrong
with its header and no handler has been called. -/
theorem echoing_breaks :
    let input := Utf8.encode "Content-Length: 9223372036854775808\r\n\r\n"
    letI : NestingLimits := .usual
    Breaks echoing 0 input (.broken .unreachable) ∧
      (echoing.run 0 input).ending = .broken .unreachable := by
  intro input
  let _ : NestingLimits := .usual
  have hinput : input = lengthHeader 9223372036854775808 ++ [] := by decide
  have hbreaks : Breaks echoing 0 input (.broken .unreachable) := by
    rw [hinput]
    exact .frame (.length (startsWith_lengthHeader _ []) (announcedAfter_lengthLine (by decide))
      (by decide))
  exact ⟨hbreaks, (run_breaks_exactly echoing 0 input).2.1 [] 0 input _ (.here 0 input) hbreaks⟩

end Dispatcher

end Rpc

end LanguageServer
