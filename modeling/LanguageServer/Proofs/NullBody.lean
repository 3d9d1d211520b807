/-
# Bodies that hold null

A body that cannot be parsed and one that is no message are refused with codes of their own,
so that a peer can tell them apart (`Rpc.ToldApart`). Reading gives the value null for a body
that is not JSON, and the body `null` has this value as well. It is JSON and no message, but
refused as a failure to parse. `Rpc.null_refused_as_unparsable` says that this is the only
kind of body with a wrong code; the only one without a code is an invalid request whose id
cannot be sent.

`Json.read_eq_ok_null_iff` finds these bodies: the word for null, and blanks around it. Where
anything else is read first, the value under way is no longer null (`Json.Expecting.NotNull`).
-/

import LanguageServer.Proofs.JsonGrammar
import LanguageServer.Proofs.Lifecycle

namespace LanguageServer

namespace Json

/-- A text that consists of the word for null, with blanks around it. -/
def IsNullText (text : Text) : Prop :=
  ∃ before after, text.toList = before ++ (Text.toList "null" ++ after) ∧
    (∀ c ∈ before, isSeparator c = true) ∧ ∀ c ∈ after, isSeparator c = true

theorem null_chars : Text.toList "null" = chars .null := rfl

theorem tokens_separators_append {before : List CodePoint} (h : ∀ c ∈ before, isSeparator c = true)
    (rest : List CodePoint) : tokens (before ++ rest) = tokens rest := by
  induction before with
  | nil => rfl
  | cons c before ih =>
      rw [List.cons_append, tokens, if_pos (h c List.mem_cons_self)]
      exact ih fun later hlater => h later (List.mem_cons_of_mem _ hlater)

theorem tokens_eq_nil_iff {text : List CodePoint} :
    tokens text = [] ↔ ∀ c ∈ text, isSeparator c = true := by
  constructor
  · intro h
    induction text with
    | nil => exact fun c hc => absurd hc List.not_mem_nil
    | cons c rest ih =>
        cases hseparator : isSeparator c with
        | true =>
            rw [tokens, if_pos hseparator] at h
            exact List.forall_mem_cons.mpr ⟨hseparator, ih h⟩
        | false =>
            rw [tokens_cons hseparator] at h
            cases h
  · intro h
    rw [← List.append_nil text, tokens_separators_append h, tokens]

theorem token_ne_null (number : NumberText) : number.token ≠ .scalar .null := by
  rw [NumberText.token]
  split
  · cases Decimal.read number.whole <;> simp
  · simp

/-- Of the words and numbers, only the word for null has this value. -/
theorem scalarToken?_eq_null {text : List CodePoint} {length : Nat}
    (h : scalarToken? text = some (.scalar .null, length)) :
    length = 4 ∧ Text.toList "null" <+: text := by
  rw [scalarToken?] at h
  split at h
  · next word value hfound =>
      obtain ⟨rfl, rfl⟩ : value = .null ∧ word.length = length := by simpa using h
      have hword : word = "null" := by
        simpa [keywords] using List.mem_of_find?_eq_some hfound
      subst hword
      exact ⟨rfl, List.isPrefixOf_iff_prefix.mp (by simpa using List.find?_some hfound)⟩
  · obtain ⟨number, -, hnumber⟩ := Option.map_eq_some_iff.mp h
    exact absurd (Prod.mk.inj hnumber).1 (token_ne_null number)

theorem nextToken_eq_null {c : CodePoint} {rest : List CodePoint} {used : Nat}
    (h : nextToken c rest = (.scalar .null, used)) :
    used = 3 ∧ Text.toList "null" <+: c :: rest := by
  rw [nextToken] at h
  iterate 6
    split at h
    · cases h
  split at h
  · split at h <;> cases h
  · split at h
    · next token length hscalar =>
        obtain ⟨rfl, rfl⟩ := Prod.mk.inj h
        obtain ⟨rfl, hprefix⟩ := scalarToken?_eq_null hscalar
        exact ⟨rfl, hprefix⟩
    · cases h

theorem tokens_eq_null_iff {text : Text} :
    tokens text.toList = [.scalar .null] ↔ IsNullText text := by
  constructor
  · rw [IsNullText]
    generalize text.toList = chars
    intro h
    induction chars with
    | nil =>
        rw [tokens] at h
        cases h
    | cons c rest ih =>
        cases hseparator : isSeparator c with
        | true =>
            rw [tokens, if_pos hseparator] at h
            obtain ⟨before, after, rfl, hbefore, hafter⟩ := ih h
            exact ⟨c :: before, after, rfl, List.forall_mem_cons.mpr ⟨hseparator, hbefore⟩, hafter⟩
        | false =>
            rw [tokens_cons hseparator] at h
            obtain ⟨htoken, hrest⟩ := List.cons.inj h
            have hnext : nextToken c rest = (.scalar .null, (nextToken c rest).2) :=
              Prod.ext htoken rfl
            obtain ⟨hused, after, hafter⟩ := nextToken_eq_null hnext
            have hdrop : rest.drop 3 = after := by
              rw [← List.drop_succ_cons, ← hafter]
              rfl
            rw [hused, hdrop, tokens_eq_nil_iff] at hrest
            exact ⟨[], after, hafter.symm, fun c hc => absurd hc List.not_mem_nil, hrest⟩
  · rintro ⟨before, after, htext, hbefore, hafter⟩
    rw [htext, tokens_separators_append hbefore, null_chars, tokens_null,
      tokens_eq_nil_iff.mpr hafter]

/-- Something has been read after which the value of the whole text is not null. -/
def Expecting.NotNull : Expecting → Prop
  | .value outer => outer ≠ []
  | .nothing whole => whole ≠ .null
  | _ => True

theorem notNull_deliver {value : Json} {outer : List Opened} (h : value ≠ .null ∨ outer ≠ []) :
    (deliver value outer).NotNull := by
  cases outer with
  | nil => exact h.resolve_right fun hne => hne rfl
  | cons opened outer => cases opened <;> exact trivial

variable {room : Nat}

theorem notNull_startValue {outer : List Opened} {token : Token} {next : Expecting}
    (htoken : token ≠ .scalar .null ∨ outer ≠ []) (h : startValue room outer token = .ok next) :
    next.NotNull := by
  cases token with
  | scalar value =>
      cases h
      exact notNull_deliver (htoken.imp_left (mt (congrArg Token.scalar)))
  | text s =>
      cases h
      exact notNull_deliver (Or.inl Json.noConfusion)
  | openArray | openObject =>
      rw [startValue] at h
      split at h
      · cases h
        trivial
      · cases h
  | closeArray | closeObject | comma | colon | oversized | junk => cases h

/-- Nothing that is read takes it back. -/
theorem Expecting.NotNull.take {expecting next : Expecting} {token : Token}
    (h : expecting.NotNull) (htake : expecting.take room token = .ok next) : next.NotNull := by
  cases expecting with
  | value outer => exact notNull_startValue (Or.inr h) htake
  | firstItem outer =>
      by_cases hend : token = .closeArray
      · subst hend
        cases htake
        exact notNull_deliver (Or.inl Json.noConfusion)
      · rw [take_firstItem hend] at htake
        exact notNull_startValue (Or.inr (List.cons_ne_nil _ _)) htake
  -- These go on inside an array or an object, or end it.
  | firstKey | key | colon | afterItem | afterField =>
      cases token <;> cases htake <;>
        first
          | exact trivial
          | exact List.cons_ne_nil _ _
          | exact notNull_deliver (Or.inl Json.noConfusion)
  | nothing whole => cases token <;> cases htake

theorem Expecting.NotNull.takeAll {expecting final : Expecting} {input : List Token}
    (h : expecting.NotNull) (htakeAll : expecting.takeAll room input = .ok final) :
    final.NotNull := by
  induction input generalizing expecting with
  | nil =>
      cases htakeAll
      exact h
  | cons token input ih =>
      cases htake : expecting.take room token with
      | error fault =>
          rw [takeAll_cons_error htake] at htakeAll
          cases htakeAll
      | ok next =>
          rw [takeAll_cons htake] at htakeAll
          exact ih (h.take htake) htakeAll

/-- A text has the value null exactly if the word for null is its only token. -/
theorem readChars_eq_ok_null_iff {text : List CodePoint} :
    readChars room text = .ok .null ↔ tokens text = [.scalar .null] := by
  constructor
  · intro h
    have htakeAll : (Expecting.value []).takeAll room (tokens text) = .ok (.nothing .null) := by
      rw [readChars] at h
      cases htakeAll : (Expecting.value []).takeAll room (tokens text) with
      | error fault =>
          rw [htakeAll] at h
          cases h
      | ok final =>
          rw [htakeAll] at h
          cases final with
          | nothing whole =>
              cases h
              rfl
          | value | firstItem | firstKey | key | colon | afterItem | afterField => cases h
    cases htokens : tokens text with
    | nil =>
        rw [htokens] at htakeAll
        cases htakeAll
    | cons token input =>
        rw [htokens] at htakeAll
        cases htake : (Expecting.value []).take room token with
        | error fault =>
            rw [takeAll_cons_error htake] at htakeAll
            cases htakeAll
        | ok next =>
            rw [takeAll_cons htake] at htakeAll
            by_cases hnull : token = .scalar .null
            · subst hnull
              cases htake
              cases input with
              | nil => rfl
              | cons later input => cases later <;> cases htakeAll
            · have hnext : next.NotNull := notNull_startValue (Or.inl hnull) htake
              exact absurd rfl (hnext.takeAll htakeAll)
  · intro h
    rw [readChars, h]
    rfl

theorem read_eq_ok_null_iff {text : Text} : read room text = .ok .null ↔ IsNullText text := by
  rw [read, readChars_eq_ok_null_iff, tokens_eq_null_iff]

end Json

namespace Rpc

variable {σ ν : Type} {dispatcher : Dispatcher σ ν} [NestingLimits]

/-- What the codes of refusals are meant to tell: a body is refused as unparsable exactly if
it is not JSON, and as an invalid request if it is JSON but no message. -/
structure ToldApart (content : Text) (reply : Option Json) : Prop where
  unparsable : reply.bind errorCode? = some (-32700) ↔ ¬∃ depth, Json.Grammatical depth content
  invalid : ∀ value defect id, Json.read NestingLimits.reading content = .ok value →
    Message.classify value = .invalid defect id → reply.bind errorCode? = some (-32600)

/-- A body has the value that is read, or null if it is not JSON. -/
theorem readBody_eq_ok_iff {content : Text} {value : Json} :
    Message.readBody content = .ok value ↔
      Json.read NestingLimits.reading content = .ok value ∨
        Json.read NestingLimits.reading content = .error .malformed ∧ .null = value := by
  rw [Message.readBody]
  cases Json.read NestingLimits.reading content with
  | ok value => simp
  | error fault => cases fault <;> simp

/-- A reply with a code is a value with this code that can be sent. -/
theorem code_ofValue_eq_some_iff {value : Json} {code : Int} :
    ((Answer.ofValue value).packet?.map Packet.value).bind errorCode? = some code ↔
      value.Sendable NestingLimits.writing ∧ errorCode? value = some code := by
  rw [Option.bind_eq_some_iff]
  simp only [Answer.value_ofValue]
  constructor
  · rintro ⟨reply, ⟨hsendable, rfl⟩, hcode⟩
    exact ⟨hsendable, hcode⟩
  · rintro ⟨hsendable, hcode⟩
    exact ⟨value, ⟨hsendable, rfl⟩, hcode⟩

namespace Dispatcher

omit [NestingLimits] in
/-- No handler of a request ends with a failure, which would bring a code of its own. An error
of the handler itself may end it. -/
def BringsNoCode (dispatcher : Dispatcher σ ν) : Prop :=
  ∀ method handler, dispatcher.request? method = some handler →
    ∀ params state failure, (handler params state).outcome ≠ .failure failure

/-- No verdict on a request is that the body is unparsable. -/
theorem verdictCode?_answerVerdict_ne (h : dispatcher.BringsNoCode) (state : σ) (id : Id)
    (method : Text) (params : Option Json) :
    Server.verdictCode? (dispatcher.answerVerdict state id method params) ≠ some (-32700) := by
  rw [answerVerdict]
  cases hhandler : dispatcher.request? method with
  | none => simp [Server.verdictCode?, ErrorCode.failure, ErrorCode.toInt]
  | some handler =>
      simp only
      cases houtcome : (handler (handlerParams params) state).outcome with
      | result value =>
          obtain ⟨-, hstands⟩ | ⟨-, fault, hreplaced⟩ := conclusion_result id value
          · simp [hstands, Server.verdictCode?]
          · simp [hreplaced, Server.verdictCode?, ErrorCode.failure, ErrorCode.toInt]
      | failure failure => exact absurd houtcome (h method handler hhandler _ _ failure)
      | crash text => simp [conclusion, Server.verdictCode?, ErrorCode.failure, ErrorCode.toInt]

/-- A value is never refused as unparsable, unless it is null. -/
theorem code_handleValue_ne (h : dispatcher.BringsNoCode) (state : σ) (value : Json) :
    (dispatcher.handleValue state value).reply.bind errorCode? ≠ some (-32700) := by
  rw [Handled.reply, answer_handleValue]
  cases Message.classify value with
  | request id method params =>
      intro hcode
      have hverdict := (code_ofValue_eq_some_iff.mp hcode).2
      rw [Server.errorCode?_replyTo] at hverdict
      exact verdictCode?_answerVerdict_ne h state id method params hverdict
  | invalid defect id =>
      intro hcode
      have hverdict := (code_ofValue_eq_some_iff.mp hcode).2
      rw [Server.errorCode?_replyTo] at hverdict
      simp [Server.verdictCode?, ErrorCode.failure, ErrorCode.toInt] at hverdict
  | notification | response => simp [messageVerdict?, answerBy, Answer.packet?]

/-- A value that is no message is refused as such if its id, if it has one, can be sent. -/
theorem code_handleValue_invalid_iff {value : Json} {defect : Defect} {id : Option Id}
    (h : Message.classify value = .invalid defect id) (dispatcher : Dispatcher σ ν) (state : σ) :
    (dispatcher.handleValue state value).reply.bind errorCode? = some (-32600) ↔
      ∀ known ∈ id, known.Sendable := by
  rw [Handled.reply, handleValue, h]
  refine code_ofValue_eq_some_iff.trans ?_
  rw [sendable_refusal_iff, ErrorCode.sendable_failure_iff]
  simp [errorCode?_refusal, ErrorCode.failure, ErrorCode.toInt]

/-- A value that is no message is not answered if its id cannot be sent. -/
theorem unanswered_of_invalid {value : Json} {defect : Defect} {id : Id}
    (h : Message.classify value = .invalid defect (some id)) (hid : ¬id.Sendable)
    (dispatcher : Dispatcher σ ν) (state : σ) :
    (dispatcher.handleValue state value).reply = none ∧
      (dispatcher.handleValue state value).raised ≠ none := by
  have hrefusal : ¬(refusal (Id.orNull (some id))
      (ErrorCode.invalidRequest.failure defect.message)).Sendable NestingLimits.writing :=
    fun hsendable => hid ((sendable_refusal_iff.mp hsendable).1 id rfl)
  rw [handleValue, h, Handled.reply, Handled.raised]
  constructor
  · rw [Option.eq_none_iff_forall_ne_some]
    intro reply hreply
    exact hrefusal (Answer.value_ofValue.mp hreply).1
  · exact mt Answer.raised?_ofValue_eq_none_iff.mp hrefusal

/-- A body that is not JSON is refused as such. -/
theorem code_handleBody_null (dispatcher : Dispatcher σ ν) (state : σ) :
    (dispatcher.handleBody state .null).reply.bind errorCode? = some (-32700) :=
  code_ofValue_eq_some_iff.mpr ⟨sendable_refusal_null (Text.holdsHalf_ofString _), rfl⟩

end Dispatcher

theorem toldApart_malformed (dispatcher : Dispatcher σ ν) (state : σ) {content : Text}
    (hread : Json.read NestingLimits.reading content = .error .malformed) :
    ToldApart content (dispatcher.handleBody state .null).reply where
  unparsable := by
    refine iff_of_true (Dispatcher.code_handleBody_null dispatcher state) ?_
    rintro ⟨depth, hgrammatical⟩
    exact Json.not_grammatical_of_malformed hread depth hgrammatical
  invalid value _ _ hvalue _ := by cases hread.symm.trans hvalue

theorem not_toldApart_null (dispatcher : Dispatcher σ ν) (state : σ) {content : Text}
    (hread : Json.read NestingLimits.reading content = .ok .null) :
    ¬ToldApart content (dispatcher.handleBody state .null).reply := fun htold =>
  htold.unparsable.mp (Dispatcher.code_handleBody_null dispatcher state)
    ⟨_, Json.exists_read_eq_ok_iff.mp ⟨.null, hread⟩⟩

/-- Of the values that are read, other than null, only an invalid request whose id cannot be sent
has no code or the wrong one. -/
theorem toldApart_handleValue_iff (h : dispatcher.BringsNoCode) (state : σ) {content : Text}
    {value : Json} (hread : Json.read NestingLimits.reading content = .ok value) :
    ToldApart content (dispatcher.handleValue state value).reply ↔
      ¬∃ defect id, Message.classify value = .invalid defect (some id) ∧ ¬id.Sendable := by
  have hgrammatical : ∃ depth, Json.Grammatical depth content :=
    ⟨_, Json.exists_read_eq_ok_iff.mp ⟨value, hread⟩⟩
  constructor
  · rintro htold ⟨defect, id, hinvalid, hid⟩
    have hcode := htold.invalid value defect (some id) hread hinvalid
    rw [Dispatcher.code_handleValue_invalid_iff hinvalid] at hcode
    exact hid (hcode id rfl)
  · intro hsendable
    constructor
    · exact iff_of_false (Dispatcher.code_handleValue_ne h state value)
        (not_not_intro hgrammatical)
    · intro value' defect id hread' hinvalid
      obtain rfl : value = value' := Except.ok.inj (hread.symm.trans hread')
      rw [Dispatcher.code_handleValue_invalid_iff hinvalid]
      intro known hknown
      by_contra hid
      rw [Option.mem_def.mp hknown] at hinvalid
      exact hsendable ⟨defect, known, hinvalid, hid⟩

/-- The codes of refusals tell a body that is not JSON from one that is JSON but no message,
except for the bodies that hold null, and for invalid requests whose id cannot be sent. A body that
holds null is JSON, whatever blanks are around it, and it is no message, but it is refused as
unparsable. An invalid request whose id cannot be sent is not answered. This is so under any
handlers that bring no codes of their own, and for every body that has a value. -/
theorem null_refused_as_unparsable (h : dispatcher.BringsNoCode) (state : σ) {content : Text}
    {value : Json} (hread : Message.readBody content = .ok value) :
    let handled := dispatcher.handle state content
    (¬ToldApart content handled.reply ↔ Json.IsNullText content ∨
      ∃ defect id, Message.classify value = .invalid defect (some id) ∧ ¬id.Sendable) ∧
    (Json.IsNullText content →
      (∃ depth, Json.Grammatical depth content) ∧
        Json.read NestingLimits.reading content = .ok .null ∧
        Message.classify .null = .invalid .notAnObject none ∧
        handled.reply.bind errorCode? = some (-32700)) ∧
    ∀ defect id, Message.classify value = .invalid defect (some id) → ¬id.Sendable →
      handled.reply = none ∧ handled.raised ≠ none := by
  intro handled
  have hhandled : handled = dispatcher.handleBody state value :=
    Dispatcher.handle_of_readBody dispatcher state hread
  rw [hhandled, ← @Json.read_eq_ok_null_iff NestingLimits.reading]
  have hnone : ∀ defect id, Message.classify .null ≠ .invalid defect (some id) :=
    by rintro _ _ ⟨⟩
  obtain hvalue | ⟨hmalformed, rfl⟩ := readBody_eq_ok_iff.mp hread
  · rw [hvalue]
    by_cases hnull : value = .null
    · subst hnull
      exact ⟨iff_of_true (not_toldApart_null dispatcher state hvalue) (Or.inl rfl),
        fun _ => ⟨⟨_, Json.exists_read_eq_ok_iff.mp ⟨.null, hvalue⟩⟩, rfl, rfl,
          Dispatcher.code_handleBody_null dispatcher state⟩,
        fun defect id hinvalid => absurd hinvalid (hnone defect id)⟩
    · have hother : ¬(.ok value : Except Json.ReadFault Json) = .ok .null :=
        fun hsame => hnull (Except.ok.inj hsame)
      rw [Dispatcher.handleBody_of_ne_null dispatcher state hnull]
      refine ⟨?_, fun hsame => absurd hsame hother, ?_⟩
      · rw [toldApart_handleValue_iff h state hvalue, not_not]
        exact (or_iff_right hother).symm
      · intro defect id hinvalid hid
        exact Dispatcher.unanswered_of_invalid hinvalid hid dispatcher state
  · rw [hmalformed]
    have htold := toldApart_malformed dispatcher state hmalformed
    have hother : ¬(.error .malformed : Except Json.ReadFault Json) = .ok .null :=
      by rintro ⟨⟩
    refine ⟨iff_of_false (not_not_intro htold) ?_, fun hsame => absurd hsame hother,
      fun defect id hinvalid => absurd hinvalid (hnone defect id)⟩
    rintro (hsame | ⟨defect, id, hinvalid, -⟩)
    · exact hother hsame
    · exact hnone defect id hinvalid

omit [NestingLimits] in
/-- The word for null between a tab and a line feed, sent to a dispatcher that echoes. -/
theorem blank_null_refused :
    let content : Text := "\tnull\n"
    letI : NestingLimits := .usual
    let handled := Dispatcher.echoing.handle 0 content
    ¬ToldApart content handled.reply ∧ handled.reply.bind errorCode? = some (-32700) := by
  intro content
  let _ : NestingLimits := .usual
  intro handled
  have hechoing : Dispatcher.echoing.BringsNoCode := by
    intro method handler hhandler params state failure
    simp only [Dispatcher.echoing] at hhandler
    split at hhandler
    · cases hhandler
      exact Outcome.noConfusion
    · cases hhandler
  have hnull : Json.IsNullText content :=
    ⟨['\t'], ['\n'], rfl, by simp [Json.isSeparator], by simp [Json.isSeparator]⟩
  have hread : Message.readBody content = .ok .null :=
    Message.readBody_of_read (Json.read_eq_ok_null_iff.mpr hnull)
  obtain ⟨htold, hcode, -⟩ := null_refused_as_unparsable hechoing 0 hread
  exact ⟨htold.mpr (Or.inl hnull), (hcode hnull).2.2.2⟩

end Rpc

end LanguageServer
