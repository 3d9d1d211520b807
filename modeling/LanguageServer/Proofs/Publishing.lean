/-
# Announced diagnostics

A client shows for each document the diagnostics that were announced last, so
these have to be the ones of the text that the server holds, at every moment of a
conversation. The invariant (`Conversation.UpToDate`) ties what has been announced
to the open documents. It also says that nothing has happened before the session
is started, because the request that starts it decides whether anything is
announced at all.

An announcement that cannot be built is not made (`Publication.Sendable`), although the
document has been changed by then. The name of a document may hold half of a surrogate pair,
and then nothing is ever announced for it.
-/

import LanguageServer.Proofs.Conversation
import LanguageServer.Proofs.Numeral

namespace LanguageServer

/-- A place whose numbers can be printed. -/
structure Position.Printable (p : Position) : Prop where
  line : (Decimal.digits p.line).length ≤ Decimal.digitLimit
  character : (Decimal.digits p.character).length ≤ Decimal.digitLimit

theorem Position.sendable_toJson_iff {room : Nat} (hroom : 0 < room) {p : Position} :
    p.toJson.Sendable room ↔ p.Printable := by
  have hparts : p.toJson.Sendable room ↔
      (Decimal.digits p.line).length ≤ Decimal.digitLimit ∧
        (Decimal.digits p.character).length ≤ Decimal.digitLimit := by
    simp [Position.toJson, Wire.position, Wire.nat, hroom]
  exact hparts.trans ⟨fun ⟨hline, hcharacter⟩ => ⟨hline, hcharacter⟩,
    fun h => ⟨h.line, h.character⟩⟩

theorem Range.sendable_toJson_iff {room : Nat} (hroom : 1 < room) {range : Range} :
    range.toJson.Sendable room ↔ range.start.Printable ∧ range.stop.Printable := by
  have hplace := fun p : Position => @Position.sendable_toJson_iff (room - 1) (by omega) p
  simp [toJson, Wire.range, hplace, show 0 < room by omega]

/-- Diagnostics that can be announced: the name of the document has a form in UTF-8, and the
places can be printed. -/
structure Publication.Sendable (publication : Publication) : Prop where
  whole : publication.uri.holdsHalf = false
  places : ∀ d ∈ publication.diagnostics, d.range.start.Printable ∧ d.range.stop.Printable

theorem Diagnostic.sendable_toJson_iff {room : Nat} (hroom : 3 ≤ room) {d : Diagnostic} :
    d.toJson.Sendable room ↔ d.range.start.Printable ∧ d.range.stop.Printable := by
  have hseverity : (Decimal.digits d.severity.toNat).length ≤ Decimal.digitLimit := by
    cases d.severity <;> decide
  have hrange := @Range.sendable_toJson_iff (room - 1) (by omega) d.range
  simp [toJson, Wire.diagnostic, Wire.optionalField, Wire.nat, hrange, hseverity,
    show 0 < room by omega]

namespace Publication

/-- If the number of lines of a text can be printed, then its diagnostics can be announced unless
there is a half in the name of the document. -/
theorem sendable_ofText_iff {uri text : Text}
    (h : (Decimal.digits (Text.lines text).length).length ≤ Decimal.digitLimit) :
    Sendable ⟨uri, Diagnostic.ofText text⟩ ↔ uri.holdsHalf = false := by
  refine ⟨Sendable.whole, fun hwhole => ⟨hwhole, fun d hd => ?_⟩⟩
  obtain ⟨⟨line, number⟩, hline, hwarning⟩ := List.mem_filterMap.mp hd
  simp only at hwarning
  split at hwarning
  · cases hwarning
    have hnumber : number ≤ (Text.lines text).length :=
      Nat.le_of_lt (List.mem_zipIdx' hline).1
    have hzero : (Decimal.digits 0).length ≤ Decimal.digitLimit := by decide
    have hplace : (Position.mk number 0).Printable :=
      ⟨Decimal.length_digits_le_of_le hnumber h, hzero⟩
    exact ⟨hplace, hplace⟩
  · cases hwarning

variable [NestingLimits]

theorem sendable_toJson_iff {publication : Publication} :
    publication.toJson.Sendable NestingLimits.writing ↔ publication.Sendable := by
  obtain ⟨uri, diagnostics⟩ := publication
  have henough : 8 ≤ NestingLimits.writing := NestingLimits.enough
  have hparts : (Publication.mk uri diagnostics).toJson.Sendable NestingLimits.writing ↔
      uri.holdsHalf = false ∧
        ∀ d ∈ diagnostics, d.range.start.Printable ∧ d.range.stop.Printable := by
    have hdiagnostic := fun d : Diagnostic =>
      @Diagnostic.sendable_toJson_iff (NestingLimits.writing - 1 - 1 - 1) (by omega) d
    simp [toJson, message, Rpc.notification, Rpc.announcement, hdiagnostic,
      show 0 < NestingLimits.writing by omega, show 0 < NestingLimits.writing - 1 by omega,
      show 0 < NestingLimits.writing - 1 - 1 by omega]
  exact hparts.trans ⟨fun ⟨hwhole, hplaces⟩ => ⟨hwhole, hplaces⟩,
    fun h => ⟨h.whole, h.places⟩⟩

end Publication

namespace Edit

/-- An edit sets the text of its own document and touches no other. -/
theorem get?_apply (edit : Edit) (store : Store) (uri : Text) :
    (edit.apply store).get? uri = if uri = edit.uri then edit.text? else store.get? uri := by
  cases edit with
  | put uri' text => exact Store.get?_put store uri' text uri
  | close uri' => exact Store.get?_erase store uri' uri

end Edit

/-- The diagnostics that were announced last for a document. -/
def shown? (uri : Text) (sent : List Announcement) : Option (List Diagnostic) :=
  (sent.filter fun announcement => announcement.publication.uri = uri).getLast?.map
    fun announcement => announcement.publication.diagnostics

/-- An announcement replaces what is shown for its own document and for no other. -/
theorem shown?_concat (uri : Text) (sent : List Announcement) (announcement : Announcement) :
    shown? uri (sent ++ [announcement]) =
      if uri = announcement.publication.uri then some announcement.publication.diagnostics
      else shown? uri sent := by
  rw [shown?, List.filter_append]
  split
  · next huri => simp [huri]
  · next huri =>
      have hother : [announcement].filter
          (fun announcement => announcement.publication.uri = uri) = [] := by
        simpa using Ne.symm huri
      rw [hother, List.append_nil, shown?]

/-- What is shown for a document has been announced for it. -/
theorem exists_of_shown? {uri : Text} {sent : List Announcement} {diagnostics : List Diagnostic}
    (h : shown? uri sent = some diagnostics) :
    ∃ announcement ∈ sent, announcement.publication = ⟨uri, diagnostics⟩ := by
  obtain ⟨announcement, hlast, rfl⟩ := Option.map_eq_some_iff.mp h
  obtain ⟨hsent, huri⟩ := List.mem_filter.mp (List.mem_of_getLast? hlast)
  exact ⟨announcement, hsent, by rw [← of_decide_eq_true huri]⟩

namespace Conversation

/-- What is shown for a document is right: the diagnostics of its text if it is open,
and otherwise none. -/
def Shows (conversation : Conversation) (uri : Text) : Prop :=
  match conversation.server.documents.get? uri with
  | some text => shown? uri conversation.sent = some (Diagnostic.ofText text)
  | none => ∀ diagnostics, shown? uri conversation.sent = some diagnostics → diagnostics = []

/-- The diagnostics of a document can be announced, or it is not open. -/
def Announceable (conversation : Conversation) (uri : Text) : Prop :=
  ∀ text, conversation.server.documents.get? uri = some text →
    Publication.Sendable ⟨uri, Diagnostic.ofText text⟩

/-- What has been announced agrees with the session as far as it can be announced. Before the
session is started no document is open and nothing is announced. -/
structure UpToDate (conversation : Conversation) : Prop where
  fresh : conversation.server.initialized = false →
    conversation.server.documents = .empty ∧ conversation.sent = []
  shown : conversation.server.settings.publishDiagnostics = true →
    ∀ uri, conversation.Announceable uri → conversation.Shows uri
  sendable : ∀ announcement ∈ conversation.sent, announcement.publication.Sendable
  silent : conversation.server.settings.publishDiagnostics = false → conversation.sent = []

/-- What is shown is right exactly where it can be announced. -/
theorem UpToDate.shows_iff {conversation : Conversation} (h : conversation.UpToDate)
    (hpublish : conversation.server.settings.publishDiagnostics = true) (uri : Text) :
    conversation.Shows uri ↔ conversation.Announceable uri := by
  refine ⟨fun hshows text htext => ?_, h.shown hpublish uri⟩
  rw [Shows, htext] at hshows
  obtain ⟨announcement, hmem, hpublication⟩ := exists_of_shown? hshows
  rw [← hpublication]
  exact h.sendable announcement hmem

/-- With no document open and nothing announced, nothing is shown. -/
theorem shows_of_empty {conversation : Conversation}
    (hdocuments : conversation.server.documents = .empty) (hsent : conversation.sent = [])
    (uri : Text) : conversation.Shows uri := by
  rw [Shows, hdocuments, hsent]
  intro diagnostics hshown
  cases hshown

end Conversation

variable [NestingLimits]

/-- The announcement that is built is the one that was asked for. -/
theorem Announcement.publication_of_build {publication : Publication} {announcement : Announcement}
    (h : build publication = .ok announcement) : announcement.publication = publication := by
  rw [build] at h
  split at h
  · cases h
  · cases h
    rfl

/-- An announcement is built exactly if it can be sent. -/
theorem Announcement.exists_build_eq_ok_iff {publication : Publication} :
    (∃ announcement, build publication = .ok announcement) ↔ publication.Sendable := by
  rw [← Publication.sendable_toJson_iff, ← Rpc.exists_build_eq_ok_iff, build]
  split
  · next fault hfault => simp [hfault]
  · next packet hpacket => simp [hpacket]

namespace Server

/-- An announcement is built for the publication that it is of. -/
theorem build_of_mem_announce {server : Server} {publication : Publication}
    {announcement : Announcement} (h : announcement ∈ server.announce publication) :
    Announcement.build publication = .ok announcement := by
  rw [announce] at h
  split at h
  · cases hbuild : Announcement.build publication with
    | ok result =>
        rw [hbuild] at h
        rw [List.mem_singleton.mp h]
    | error fault =>
        rw [hbuild] at h
        cases h
  · cases h

theorem publication_of_mem_announce {server : Server} {publication : Publication}
    {announcement : Announcement} (h : announcement ∈ server.announce publication) :
    announcement.publication = publication :=
  Announcement.publication_of_build (build_of_mem_announce h)

/-- Only what can be sent is announced. -/
theorem sendable_of_mem_announce {server : Server} {publication : Publication}
    {announcement : Announcement} (h : announcement ∈ server.announce publication) :
    announcement.publication.Sendable := by
  rw [publication_of_mem_announce h]
  exact Announcement.exists_build_eq_ok_iff.mp ⟨announcement, build_of_mem_announce h⟩

/-- What is announced is the publication if it can be sent, and otherwise nothing. -/
theorem announce_cases {server : Server} (publication : Publication)
    (h : server.settings.publishDiagnostics = true) :
    (publication.Sendable ∧
      ∃ announcement, announcement.publication = publication ∧
        server.announce publication = [announcement]) ∨
    (¬publication.Sendable ∧ server.announce publication = []) := by
  rw [announce, if_pos h, ← Announcement.exists_build_eq_ok_iff]
  cases hbuild : Announcement.build publication with
  | ok announcement =>
      exact Or.inl
        ⟨⟨announcement, rfl⟩, announcement, Announcement.publication_of_build hbuild, rfl⟩
  | error fault => exact Or.inr ⟨by simp, rfl⟩

end Server

namespace Conversation

/-- The documents after an edit. -/
theorem get?_perform_edit (conversation : Conversation) (edit : Edit) (uri : Text) :
    (conversation.perform (.edit edit)).server.documents.get? uri =
      if uri = edit.uri then edit.text? else conversation.server.documents.get? uri :=
  edit.get?_apply conversation.server.documents uri

/-- An edit that is announced shows its document as the edit leaves it; the other
documents and what is shown for them stay as they are. -/
theorem shows_perform_edit {conversation : Conversation} (edit : Edit)
    (hpublish : conversation.server.settings.publishDiagnostics = true)
    (h : conversation.UpToDate) (uri : Text)
    (hannounceable : (conversation.perform (.edit edit)).Announceable uri) :
    (conversation.perform (.edit edit)).Shows uri := by
  have hsent : (conversation.perform (.edit edit)).sent = conversation.sent ++
      conversation.server.announce ⟨edit.uri, edit.diagnostics⟩ := rfl
  rw [Announceable, get?_perform_edit] at hannounceable
  rw [Shows, get?_perform_edit, hsent]
  by_cases huri : uri = edit.uri
  · subst huri
    rw [if_pos rfl] at hannounceable ⊢
    obtain ⟨-, announcement, hpublication, hannounce⟩ | ⟨hunsendable, hannounce⟩ :=
      Server.announce_cases ⟨edit.uri, edit.diagnostics⟩ hpublish
    · rw [hannounce, shown?_concat, hpublication, if_pos rfl]
      cases edit with
      | put uri text => rfl
      | close uri =>
          intro diagnostics hshown
          exact (Option.some.inj hshown).symm
    · cases edit with
      | put uri text => exact absurd (hannounceable text rfl) hunsendable
      | close uri =>
          -- Nothing can have been announced for a document whose name cannot be sent.
          rw [hannounce, List.append_nil]
          intro diagnostics hshown
          obtain ⟨announcement, hmem, hpublication⟩ := exists_of_shown? hshown
          have hwhole : uri.holdsHalf = false := by
            have hsendable := h.sendable announcement hmem
            rw [hpublication] at hsendable
            exact hsendable.whole
          exact absurd ⟨hwhole, fun d hd => absurd hd List.not_mem_nil⟩ hunsendable
  · rw [if_neg huri] at hannounceable ⊢
    have hshown : shown? uri (conversation.sent ++
        conversation.server.announce ⟨edit.uri, edit.diagnostics⟩) =
          shown? uri conversation.sent := by
      obtain ⟨-, announcement, hpublication, hannounce⟩ | ⟨-, hannounce⟩ :=
        Server.announce_cases ⟨edit.uri, edit.diagnostics⟩ hpublish
      · rw [hannounce, shown?_concat, hpublication, if_neg huri]
      · rw [hannounce, List.append_nil]
    rw [hshown]
    exact h.shown hpublish uri hannounceable

/-- Every move that can be made keeps what is shown up to date. -/
theorem UpToDate.perform {conversation : Conversation} {move : Move}
    (hallows : conversation.server.Allows move) (h : conversation.UpToDate) :
    (conversation.perform move).UpToDate := by
  cases move with
  | start options =>
      obtain ⟨hdocuments, hsent⟩ := h.fresh hallows
      have hdocuments' : (conversation.perform (.start options)).server.documents = .empty :=
        hdocuments
      have hsent' : (conversation.perform (.start options)).sent = [] := by
        simp only [Conversation.perform, Server.perform, hsent, List.append_nil]
      have hsendable : ∀ announcement ∈ (conversation.perform (.start options)).sent,
          announcement.publication.Sendable := by
        rw [hsent']
        exact fun announcement hmem => absurd hmem List.not_mem_nil
      exact ⟨fun _ => ⟨hdocuments', hsent'⟩, fun _ uri _ => shows_of_empty hdocuments' hsent' uri,
        hsendable, fun _ => hsent'⟩
  | shutdown | exit =>
      -- Neither the documents nor the announcements change.
      simp only [Conversation.perform, Server.perform, List.append_nil]
      exact ⟨h.fresh, h.shown, h.sendable, h.silent⟩
  | edit edit =>
      refine ⟨?_, ?_, ?_, ?_⟩
      · intro hfresh
        exact absurd (hfresh.symm.trans hallows) Bool.false_ne_true
      · intro hpublish
        exact shows_perform_edit edit hpublish h
      · intro announcement hmem
        obtain hbefore | hnew := List.mem_append.mp hmem
        · exact h.sendable announcement hbefore
        · exact Server.sendable_of_mem_announce hnew
      · intro hsilent
        have hannounce :
            conversation.server.announce ⟨edit.uri, edit.diagnostics⟩ = [] :=
          if_neg (ne_true_of_eq_false hsilent)
        simp only [Conversation.perform, Server.perform, hannounce, List.append_nil]
        exact h.silent hsilent

theorem upToDate_after (settings : Settings) (contents : List Text) :
    (after settings contents).UpToDate := by
  refine after_induction ?_ ?_ contents
  · exact ⟨fun _ => ⟨rfl, rfl⟩, fun _ uri _ => shows_of_empty rfl rfl uri,
      fun announcement hmem => absurd hmem List.not_mem_nil, fun _ => rfl⟩
  · intro conversation move hallows h
    exact h.perform hallows

/-- Announced diagnostics are out of date exactly where they cannot be announced. Whatever bodies
a fresh server is given, and whatever others follow them: if the settings, with the options of the
first request to start the session, turn announcements on, then what is shown for a document is
right unless the document is open and the diagnostics of its text cannot be announced; if they
turn announcements off, nothing is ever announced. -/
theorem stale_exactly_if_unsendable (settings : Settings) (contents later : List Text) :
    let conversation := after settings contents
    if (settings.negotiated (startOptions? (contents ++ later))).publishDiagnostics then
      ∀ uri,
        (match conversation.server.documents.get? uri with
          | some text => shown? uri conversation.sent = some (Diagnostic.ofText text)
          | none =>
              ∀ diagnostics, shown? uri conversation.sent = some diagnostics → diagnostics = []) ↔
        ∀ text, conversation.server.documents.get? uri = some text →
          Publication.Sendable ⟨uri, Diagnostic.ofText text⟩
    else conversation.sent = [] := by
  intro conversation
  have hupToDate : conversation.UpToDate := upToDate_after settings contents
  obtain ⟨hinitialized, hsettings⟩ := settings_after settings contents
  rw [startOptions?_append]
  cases hoptions : startOptions? contents with
  | none =>
      -- The session has not been started, whatever options it will be started with.
      rw [hoptions] at hinitialized
      obtain ⟨hdocuments, hsent⟩ := hupToDate.fresh hinitialized
      split
      · intro uri
        refine iff_of_true (shows_of_empty hdocuments hsent uri) fun text htext => ?_
        rw [hdocuments] at htext
        cases htext
      · exact hsent
  | some options =>
      rw [hoptions] at hsettings
      rw [Option.some_or, ← hsettings]
      split
      · next hpublish => exact hupToDate.shows_iff hpublish
      · next hpublish => exact hupToDate.silent (eq_false_of_ne_true hpublish)

omit [NestingLimits] in
/-- A document whose name holds half of a surrogate pair is opened, and nothing is announced for
it. -/
theorem stale_document_with_half_name :
    let uri : Text := ⟨Text.toList "file:///" ++ [.half 0]⟩
    let text : Text := ""
    let start : Json := .obj [("jsonrpc", .str "2.0"), ("id", .int 1),
      ("method", .str "initialize")]
    let opening : Text :=
      "\x7b\"jsonrpc\": \"2.0\", \"method\": \"textDocument/didOpen\", \"params\": " ++
        "\x7b\"textDocument\": \x7b\"uri\": \"file:///\\ud800\", \"text\": \"\"\x7d\x7d\x7d"
    letI : NestingLimits := .usual
    let conversation := after {} [start.render, opening]
    conversation.server.documents.get? uri = some text ∧
      shown? uri conversation.sent ≠ some (Diagnostic.ofText text) := by
  intro uri text start opening
  let _ : NestingLimits := .usual
  intro conversation
  let params : Json := .obj [("textDocument", .obj [("uri", .str uri), ("text", .str text)])]
  let value : Json := .obj [("jsonrpc", .str "2.0"), ("method", .str "textDocument/didOpen"),
    ("params", params)]
  have hplain : start.Plain 1 := by
    simp [start]
    decide
  have hstart : messageOf? start.render = some (.request (.int 1) "initialize" none) :=
    messageOf?_render hplain (by decide)
  have htokens : Json.tokens opening.toList = [.openObject, .text "jsonrpc", .colon, .text "2.0",
      .comma, .text "method", .colon, .text "textDocument/didOpen", .comma, .text "params", .colon,
      .openObject, .text "textDocument", .colon, .openObject, .text "uri", .colon, .text uri,
      .comma, .text "text", .colon, .text text, .closeObject, .closeObject, .closeObject] := by
    simp [opening, uri, text, Text.ofString]
  have hread : Json.read NestingLimits.reading opening = .ok value :=
    Json.read_of_tokens htokens rfl
  have hopening : messageOf? opening = some (.notification "textDocument/didOpen" (some params)) :=
    messageOf?_of_read hread
  have hconversation : conversation =
      (follow { server := {} } (.request (.int 1) "initialize" none)).follow
        (.notification "textDocument/didOpen" (some params)) := by
    simp only [conversation, after, List.foldl_cons, List.foldl_nil, hear_eq, hstart, hopening,
      Option.map_some, Option.getD_some]
  have hopen : conversation.server.documents.get? uri = some text := by
    rw [hconversation]
    rfl
  have hstarted : startOptions? [start.render, opening] = some .null := by
    simp only [startOptions?, List.findSome?_cons, hstart, Option.bind_some]
    rfl
  have hlaw := stale_exactly_if_unsendable {} [start.render, opening] []
  rw [List.append_nil, hstarted] at hlaw
  have hannounceable : conversation.Shows uri ↔ conversation.Announceable uri := hlaw uri
  refine ⟨hopen, fun hshown => ?_⟩
  rw [Shows, hopen] at hannounceable
  cases (hannounceable.mp hshown text hopen).whole

end Conversation

end LanguageServer
