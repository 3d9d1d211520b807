/-
# Answers to questions

A question in a running session fails only for its parameters: it has a result exactly
when they are complete (`FeatureRequest.Complete`), and else it is refused for the
parameter that is missing. Nothing goes wrong on the way to a result, because the lines
and characters that are looked at have numbers that are there (`ByNumber.answer`),
wherever the client says that it is. Nothing goes wrong on the way back either, because
a result is made of parts that can be sent (`FeatureRequest.sendable_answer`).
-/

import LanguageServer.Proofs.ByNumber.Answer
import LanguageServer.Proofs.SendableAnswer

namespace LanguageServer

open Rpc

namespace Server

/-- In a running session a question comes to an answer of its own, which is a result if its
parameters are complete. -/
theorem due_cases {server : Server} (hstarted : server.initialized = true)
    (hrunning : server.shutdownRequested = false) (feature : FeatureRequest)
    (params : Option Json) :
    let given := Dispatcher.handlerParams params
    (feature.Complete given ∧ ∃ result, feature.answer server.documents given = .ok result ∧
        server.due feature params = .ok result) ∨
      (¬feature.Complete given ∧ ∃ missing,
        feature.answer server.documents given = .error missing ∧
          server.due feature params =
            .error (ErrorCode.invalidParams.failure missing.message)) := by
  intro given
  rw [← FeatureRequest.answer_eq_ok_iff server.documents]
  cases hanswer : feature.answer server.documents given with
  | ok result =>
      refine Or.inl ⟨⟨result, rfl⟩, result, rfl, ?_⟩
      simp [due, hstarted, hrunning, given, hanswer]
  | error missing =>
      refine Or.inr ⟨?_, missing, rfl, ?_⟩
      · rintro ⟨result, ⟨⟩⟩
      · simp [due, hstarted, hrunning, given, hanswer]

end Server

variable [NestingLimits]

/-- A verdict that can be sent under the id of its request is replied without a complaint. -/
theorem Rpc.Dispatcher.conclude_of_sendable {id : Id} {verdict : Verdict} (method : Text)
    (h : (replyTo id.toJson verdict).Sendable NestingLimits.writing) :
    ∃ packet, conclude id method verdict.outcome = (.reply packet, []) ∧
      packet.value = replyTo id.toJson verdict := by
  obtain ⟨packet, hbuild⟩ := exists_build_eq_ok_iff.mpr h
  refine ⟨packet, ?_, value_of_build hbuild⟩
  cases verdict with
  | ok result =>
      rw [replyTo] at hbuild
      simp only [Verdict.outcome, conclude, hbuild]
  | error failure =>
      rw [replyTo] at hbuild
      simp only [Verdict.outcome, conclude, Answer.ofValue, hbuild]

namespace Server

/-- The room that the reply leaves is enough for an answer. -/
theorem sendable_result {store : Store} (hstore : store.Plain) {feature : FeatureRequest}
    {given result : Json} (hgiven : given.Sendable (NestingLimits.writing - 3))
    (h : feature.answer store given = .ok result) : Verdict.Sendable (.ok result) := by
  have henough : 8 ≤ NestingLimits.writing := NestingLimits.enough
  obtain ⟨room, hroom⟩ := Nat.exists_eq_add_of_le' henough
  rw [hroom, show room + 8 - 3 = room + 1 + 4 by omega] at hgiven
  have hresult := FeatureRequest.sendable_answer hstore hgiven h
  rwa [show room + 1 + 6 = NestingLimits.writing - 1 by omega] at hresult

/-- A verdict that can be sent is replied, and that is all a question leads to. -/
theorem answer_of_sendable {server : Server} {id : Id} (hid : id.Sendable)
    {feature : FeatureRequest} {params : Option Json} {verdict : Verdict}
    (hdue : server.due feature params = verdict) (hverdict : Verdict.Sendable verdict) :
    ∃ packet, dispatcher.answer server id feature.method params =
        { state := server, answer := .reply packet } ∧
      packet.value = replyTo id.toJson verdict := by
  obtain ⟨packet, hconclude, hvalue⟩ := Dispatcher.conclude_of_sendable feature.method
    (sendable_replyTo_iff.mpr ⟨hid, hverdict⟩)
  refine ⟨packet, ?_, hvalue⟩
  rw [answer_feature, hdue, hconclude]

/-- In a running session the verdict on a question with complete parameters is a result, and any
other one is refused because its parameters are not right. The result is found without taking a
line or a character whose number is absent, whatever the documents are and whatever
stands in the places and ranges among the parameters. The session stays as it is. Unless
something holds half of a surrogate pair, has a number that cannot be printed or is nested to the
limit, the verdict is replied. -/
theorem questions_fail_only_for_parameters {server : Server}
    (hstarted : server.initialized = true) (hrunning : server.shutdownRequested = false)
    (id : Id) (feature : FeatureRequest) (params : Option Json) :
    let given := Dispatcher.handlerParams params
    let handled := dispatcher.answer server id feature.method params
    ∃ verdict, handled.state = server ∧ Delivered id verdict handled ∧
      (feature.Complete given ∧
          (∃ result, verdict = .ok result ∧
            ByNumber.answer server.documents given feature = .ok (.ok result)) ∨
        ¬feature.Complete given ∧
          ∃ missing, verdict = .error (ErrorCode.invalidParams.failure missing.message) ∧
            ByNumber.answer server.documents given feature = .error missing) ∧
      (id.Sendable → server.documents.Plain → given.Sendable (NestingLimits.writing - 3) →
        ∃ packet, handled = { state := server, answer := .reply packet } ∧
          packet.value = replyTo id.toJson verdict ∧
          (feature.Complete given → errorCode? packet.value = none) ∧
          (¬feature.Complete given → errorCode? packet.value = some (-32602))) := by
  intro given handled
  have hstate : handled.state = server :=
    congrArg Handled.state (answer_feature server id feature params)
  have hdelivered := delivered_feature server id feature params
  rw [ByNumber.answer_eq]
  rcases due_cases hstarted hrunning feature params with
    ⟨hcomplete, result, hresult, hdue⟩ | ⟨hincomplete, missing, hmissing, hdue⟩
  · refine ⟨.ok result, hstate, hdue ▸ hdelivered, Or.inl ⟨hcomplete, result, rfl, ?_⟩,
      fun hid hdocuments hgiven => ?_⟩
    · rw [hresult]
      rfl
    · obtain ⟨packet, hanswer, hvalue⟩ :=
        answer_of_sendable hid hdue (sendable_result hdocuments hgiven hresult)
      exact ⟨packet, hanswer, hvalue, fun _ => by rw [hvalue, errorCode?_replyTo]; rfl,
        fun hincomplete => absurd hcomplete hincomplete⟩
  · refine ⟨.error _, hstate, hdue ▸ hdelivered, Or.inr ⟨hincomplete, missing, rfl, ?_⟩,
      fun hid _ _ => ?_⟩
    · rw [hmissing]
      rfl
    · obtain ⟨packet, hanswer, hvalue⟩ := answer_of_sendable hid hdue (sendable_of_due hdue)
      exact ⟨packet, hanswer, hvalue, fun hcomplete => absurd hcomplete hincomplete,
        fun _ => by rw [hvalue, errorCode?_replyTo]; rfl⟩

omit [NestingLimits] in
/-- The chain of selections is asked for at places that no document has, and a word is
asked for at a place that is no object: the one has a result, the other does not. -/
theorem selection_at_absent_places :
    let server : Server := {
      documents := Store.empty.put "file:///a.toy" "fn main() \x7b\x7d"
      initialized := true }
    let document : Text × Json := ("textDocument", .obj [("uri", .str "file:///a.toy")])
    let places : List Json := [.obj [("line", .int (-1)), ("character", .int (10 ^ 30))],
      .obj [("line", .bool true)], .null]
    letI : NestingLimits := .usual
    (∃ packet, dispatcher.answer server (.int 1) "textDocument/selectionRange"
        (some (.obj [document, ("positions", .arr places)])) =
          { state := server, answer := .reply packet } ∧
      errorCode? packet.value = none) ∧
    ∃ packet, dispatcher.answer server (.int 2) "textDocument/hover"
        (some (.obj [document, ("position", .arr places)])) =
          { state := server, answer := .reply packet } ∧
      errorCode? packet.value = some (-32602) := by
  intro server document places
  let _ : NestingLimits := .usual
  have hnamed (other : Text × Json) :
      FeatureRequest.NamesDocument (.obj [document, other]) :=
    ⟨"file:///a.toy", by simp [document, Json.path?, Json.field?], rfl⟩
  have hplain : server.documents.Plain := by
    have hentries : server.documents.entries =
        [(("file:///a.toy" : Text), ("fn main() \x7b\x7d" : Text))] := rfl
    constructor
    · simp [hentries]
    · rw [hentries, List.forall_mem_singleton]
      exact ⟨Text.holdsHalf_ofString _, by decide⟩
  have hgiven (key : Text) (hkey : key.holdsHalf = false) :
      (Json.obj [document, (key, .arr places)]).Sendable 897 := by
    simp only [document, places, Json.Sendable.obj_iff, Json.Sendable.arr_iff, List.forall_mem_cons,
      Text.holdsHalf_ofString, hkey]
    decide
  constructor
  · obtain ⟨verdict, -, -, -, hreply⟩ :=
      @questions_fail_only_for_parameters _ server rfl rfl (.int 1) .selectionRange
        (some (.obj [document, ("positions", .arr places)]))
    obtain ⟨packet, hanswer, -, hcode, -⟩ :=
      hreply (by decide) hplain (hgiven _ (Text.holdsHalf_ofString _))
    exact ⟨packet, hanswer, hcode ⟨hnamed _, places, rfl⟩⟩
  · obtain ⟨verdict, -, -, -, hreply⟩ :=
      @questions_fail_only_for_parameters _ server rfl rfl (.int 2) .hover
        (some (.obj [document, ("position", .arr places)]))
    obtain ⟨packet, hanswer, -, -, hcode⟩ :=
      hreply (by decide) hplain (hgiven _ (Text.holdsHalf_ofString _))
    refine ⟨packet, hanswer, hcode ?_⟩
    rintro ⟨-, fields, hfields⟩
    cases hfields

end Server

end LanguageServer
