/-
# The loop makes progress

A call of the reader that yields a body or a rejection moves its offset in the stream forward,
and a call at the end of the stream finds the end. A turn after which the loop goes on starts
with such a call, so the loop takes at most one turn for each byte of the stream, and one more
(`Rpc.Dispatcher.run_progresses`). There are streams of every length for which it takes that
many, as blank lines take a turn each (`Rpc.Dispatcher.takesTurns_blankLines_iff`).
-/

import LanguageServer.Proofs.LastLength
import LanguageServer.Proofs.Serving

namespace LanguageServer

namespace Frame

theorem readHeaders_suffix (known : Announced) (input : Bytes) :
    (readHeaders known input).2 <:+ input := by
  fun_induction readHeaders known input with
  | case1 known => exact List.suffix_rfl
  | case2 known b more line rest header hblank => exact List.drop_suffix ..
  | case3 known b more line rest header hfilled fault hafter => exact List.drop_suffix ..
  | case4 known b more line rest header hfilled announced hafter ih =>
      exact ih.trans (List.drop_suffix ..)

/-- What a call leaves of a stream is the end of it. -/
theorem read_suffix (input : Bytes) : (read input).2 <:+ input := by
  have hsuffix := readHeaders_suffix .missing input
  rw [read]
  generalize readHeaders .missing input = found at hsuffix ⊢
  obtain ⟨headers, rest⟩ := found
  cases headers with
  | finished => exact hsuffix
  | broken fault => exact hsuffix
  | complete announced =>
      cases announced with
      | missing => exact hsuffix
      | invalid => exact hsuffix
      | length n => exact (readBody_suffix n rest).trans hsuffix

/-- A call of the reader at an offset of a stream: how it ended, and the offset after it. -/
def readAt (stream : Bytes) (offset : Nat) : Outcome × Nat :=
  ((read (stream.drop offset)).1, stream.length - (read (stream.drop offset)).2.length)

variable {stream : Bytes} {offset : Nat}

/-- The bytes from the offset after a call on are the ones that the call leaves. -/
theorem drop_readAt (stream : Bytes) (offset : Nat) :
    stream.drop (readAt stream offset).2 = (read (stream.drop offset)).2 :=
  (List.suffix_iff_eq_drop.mp ((read_suffix _).trans (List.drop_suffix ..))).symm

theorem readAt_le_length (stream : Bytes) (offset : Nat) :
    (readAt stream offset).2 ≤ stream.length :=
  Nat.sub_le ..

/-- A call after which reading goes on moves the offset forward. -/
theorem lt_readAt (h : offset ≤ stream.length) (hgoes : (readAt stream offset).1.goesOn = true) :
    offset < (readAt stream offset).2 := by
  have hshorter : (read (stream.drop offset)).2.length < (stream.drop offset).length :=
    length_read_lt rfl hgoes
  rw [List.length_drop] at hshorter
  rw [readAt]
  omega

theorem readAt_length (stream : Bytes) :
    readAt stream stream.length = (.finished, stream.length) := by
  rw [readAt, List.drop_length, read_nil]
  rfl

/-- A blank line without a header is a frame that is rejected. -/
theorem read_feed (rest : Bytes) : read (10 :: rest) = (.rejected .missingLength, rest) := by
  have hheaders : readHeaders .missing (List.replicate 0 13 ++ 10 :: rest) =
      (.complete .missing, rest) :=
    readHeaders_blank (.feed rest) (by simp) .missing
  rw [List.replicate_zero, List.nil_append] at hheaders
  rw [read, hheaders]

end Frame

namespace Rpc.Dispatcher

variable {σ ν : Type} [NestingLimits]

/-- The loop with a bound on its turns; without a result if it has not ended within them. -/
def runWithin (dispatcher : Dispatcher σ ν) : Nat → σ → Bytes → Option (Run σ ν)
  | 0, _, _ => none
  | bound + 1, state, input =>
      let (outcome, rest) := Frame.read input
      let turn := dispatcher.turn state outcome
      match turn.ending with
      | some ending => some ⟨turn.state, turn.output, turn.log, ending, rest⟩
      | none =>
          (dispatcher.runWithin bound turn.state rest).map fun later =>
            { later with output := turn.output ++ later.output, log := turn.log ++ later.log }

/-- The loop takes this many turns: it has not ended after fewer, and with these or more turns
to take it leads to what it leads to without a bound. -/
def TakesTurns (dispatcher : Dispatcher σ ν) (turns : Nat) (state : σ) (input : Bytes) : Prop :=
  ∀ bound, dispatcher.runWithin bound state input =
    if turns ≤ bound then some (dispatcher.run state input) else none

variable {dispatcher : Dispatcher σ ν} {state : σ} {input : Bytes}

theorem TakesTurns.unique {turns turns' : Nat} (h : dispatcher.TakesTurns turns state input)
    (h' : dispatcher.TakesTurns turns' state input) : turns = turns' := by
  have hends {fewer more : Nat} (hfewer : dispatcher.TakesTurns fewer state input)
      (hmore : dispatcher.TakesTurns more state input) : more ≤ fewer := by
    by_contra hlt
    have hrun := hfewer fewer
    rw [if_pos (Nat.le_refl _), hmore fewer, if_neg hlt] at hrun
    cases hrun
  exact Nat.le_antisymm (hends h' h) (hends h h')

theorem takesTurns_of_ends {ending : Ending}
    (h : (dispatcher.firstTurn state input).ending = some ending) :
    dispatcher.TakesTurns 1 state input := by
  intro bound
  cases bound with
  | zero => rfl
  | succ bound =>
      rw [if_pos (Nat.le_add_left ..), run_of_ends h, runWithin]
      dsimp only
      rw [← firstTurn, h]

/-- After a turn the loop takes the turns that it takes from there on. -/
theorem takesTurns_of_goes_on {turns : Nat}
    (h : (dispatcher.firstTurn state input).ending = none)
    (hlater : dispatcher.TakesTurns turns (dispatcher.firstTurn state input).state
      (Frame.read input).2) : dispatcher.TakesTurns (turns + 1) state input := by
  intro bound
  cases bound with
  | zero => rfl
  | succ bound =>
      rw [run_of_goes_on h, runWithin]
      dsimp only
      rw [← firstTurn, h]
      dsimp only
      rw [hlater bound]
      simp only [Nat.add_le_add_iff_right]
      split
      · rfl
      · rfl

/-- The loop takes at most one turn for each byte that it takes from the stream, and one more. -/
theorem exists_takesTurns (dispatcher : Dispatcher σ ν) (state : σ) (input : Bytes) :
    ∃ turns, turns + (dispatcher.run state input).unread.length ≤ input.length + 1 ∧
      dispatcher.TakesTurns turns state input := by
  induction state, input using run_induction dispatcher with
  | ends state input ending hending =>
      have hunread := (Frame.read_suffix input).length_le
      refine ⟨1, ?_, takesTurns_of_ends hending⟩
      rw [run_of_ends hending]
      dsimp only
      omega
  | goesOn state input hending ih =>
      -- A turn that does not end the loop has taken at least one byte.
      have hshorter : (Frame.read input).2.length < input.length :=
        Frame.length_read_lt rfl (goesOn_of_turn_ending_eq_none hending)
      obtain ⟨turns, hturns, htakes⟩ := ih
      refine ⟨turns + 1, ?_, takesTurns_of_goes_on hending htakes⟩
      rw [run_of_goes_on hending]
      dsimp only
      omega

/-- Each of some blank lines takes a turn, and the end of the stream takes one more. -/
theorem takesTurns_blankLines_iff (dispatcher : Dispatcher σ ν) (state : σ) (count : Nat)
    {turns : Nat} :
    dispatcher.TakesTurns turns state (List.replicate count 10) ↔ turns = count + 1 := by
  have htakes : dispatcher.TakesTurns (count + 1) state (List.replicate count 10) := by
    induction count with
    | zero =>
        have hends : (dispatcher.firstTurn state []).ending = some .endOfStream := by
          rw [firstTurn, Frame.read_nil, turn]
        exact takesTurns_of_ends hends
    | succ count ih =>
        have hread := Frame.read_feed (List.replicate count 10)
        obtain ⟨packet, -, hturn⟩ := turn_rejected dispatcher state .missingLength
        rw [List.replicate_succ]
        refine takesTurns_of_goes_on ?_ ?_
        · rw [firstTurn, hread, hturn]
        · rw [firstTurn, hread, hturn]
          exact ih
  exact ⟨fun h => h.unique htakes, fun h => h ▸ htakes⟩

/-- Reading and the loop make progress. A call of the reader at an offset of a stream leads to
an offset of the stream, from which on the bytes are the ones left unread. It is a greater one
if the call yields a body or a rejection, and a call at the end of the stream finds the end. So
the loop takes at most as many turns as the stream has bytes, and one more. -/
theorem run_progresses :
    (∀ stream offset, offset ≤ stream.length →
      (Frame.readAt stream offset).2 ≤ stream.length ∧
      stream.drop (Frame.readAt stream offset).2 = (Frame.read (stream.drop offset)).2 ∧
      (∀ content, (Frame.readAt stream offset).1 = .body content →
        offset < (Frame.readAt stream offset).2) ∧
      (∀ fault, (Frame.readAt stream offset).1 = .rejected fault →
        offset < (Frame.readAt stream offset).2) ∧
      (offset = stream.length → (Frame.readAt stream offset).1 = .finished)) ∧
    ∀ (σ ν : Type) (dispatcher : Dispatcher σ ν) (state : σ) (input : Bytes),
      ∃ turns ≤ input.length + 1, dispatcher.TakesTurns turns state input := by
  refine ⟨fun stream offset hoffset => ?_, fun σ ν dispatcher state input => ?_⟩
  · refine ⟨Frame.readAt_le_length .., Frame.drop_readAt .., fun content hbody => ?_,
      fun fault hrejected => ?_, ?_⟩
    · exact Frame.lt_readAt hoffset (by rw [hbody]; rfl)
    · exact Frame.lt_readAt hoffset (by rw [hrejected]; rfl)
    · rintro rfl
      rw [Frame.readAt_length]
  · obtain ⟨turns, hturns, htakes⟩ := exists_takesTurns dispatcher state input
    exact ⟨turns, Nat.le_trans (Nat.le_add_right ..) hturns, htakes⟩

omit [NestingLimits] in
/-- Two blank lines: the call at the second one moves on by a byte, the call behind it finds
the end, and the loop over both of them ends within three turns. -/
theorem two_blank_lines_pass :
    letI : NestingLimits := .usual
    (Frame.readAt [10, 10] 1).1 = .rejected .missingLength ∧ 1 < (Frame.readAt [10, 10] 1).2 ∧
      (Frame.readAt [10, 10] 2).1 = .finished ∧
      ∃ turns ≤ 3, echoing.TakesTurns turns 0 [10, 10] := by
  let _ : NestingLimits := .usual
  obtain ⟨hcalls, hturns⟩ := run_progresses
  obtain ⟨-, -, -, hrejected, -⟩ := hcalls [10, 10] 1 (by decide)
  obtain ⟨-, -, -, -, hend⟩ := hcalls [10, 10] 2 (by decide)
  have hblank : (Frame.readAt [10, 10] 1).1 = .rejected .missingLength :=
    congrArg Prod.fst (Frame.read_feed [])
  exact ⟨hblank, hrejected _ hblank, hend rfl, hturns Nat Unit echoing 0 [10, 10]⟩

end Rpc.Dispatcher

end LanguageServer
