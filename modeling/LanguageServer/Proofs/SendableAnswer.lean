/-
# Answers that can be sent

The parts of an answer to a question are names of documents, pieces of their lines, the
numbers of lines and columns, fixed words, and what a client has put among the parameters. So an
answer can be sent if the open documents and the parameters can (`FeatureRequest.sendable_answer`).
Answers are nested at most six deep, and no deeper than that around the one value that
a client gets back as it came: the range of a warning.
-/

import LanguageServer.Proofs.Lexing
import LanguageServer.Proofs.Lines
import LanguageServer.Proofs.PlacesInside
import LanguageServer.Proofs.Publishing
import LanguageServer.Proofs.RequiredParameter
import LanguageServer.Proofs.TrimmedLine
import LanguageServer.Proofs.WordRun

namespace LanguageServer

namespace Text

/-- A text that can be sent, with the numbers of its lines and columns. -/
structure Plain (text : Text) : Prop where
  whole : text.holdsHalf = false
  short : (Decimal.digits text.toList.length).length ≤ Decimal.digitLimit

theorem length_pieces_le (separator : CodePoint) (text : List CodePoint) :
    (pieces separator text).length ≤ text.length + 1 := by
  induction text with
  | nil => exact Nat.le_refl 1
  | cons c rest ih =>
      by_cases hc : c = separator
      · rw [pieces, if_pos hc]
        exact Nat.succ_le_succ ih
      · obtain ⟨piece, more, hrest, hpieces⟩ := pieces_cons_of_ne hc rest
        rw [hrest] at ih
        rw [hpieces]
        exact Nat.le_succ_of_le ih

theorem length_lines_le (text : Text) : (lines text).length ≤ text.toList.length + 1 := by
  have hpieces := length_pieces_le (.char '\n') text.toList
  rw [lines, splitLines, List.length_map, dropEmptyLast]
  split
  · rw [List.length_dropLast]
    omega
  · exact hpieces

theorem length_le_of_mem_lines {text : Text} {line : Line} (h : line ∈ lines text) :
    line.length ≤ text.toList.length := by
  obtain ⟨piece, hpiece, rfl⟩ := List.mem_map.mp h
  have hinfix := infix_joinLines (mem_of_mem_dropEmptyLast hpiece)
  rw [joinLines_pieces] at hinfix
  exact (isPrefix_dropReturn piece).length_le.trans hinfix.length_le

namespace Plain

variable {text : Text}

/-- A place in a plain text can be printed. -/
theorem printable (h : text.Plain) {p : Position} (hp : p.Inside (lines text)) : p.Printable := by
  obtain ⟨line, hline, hcharacter⟩ := hp
  have hnumber : p.line < (lines text).length := (List.getElem?_eq_some_iff.mp hline).1
  have hlines := length_lines_le text
  have hlength := length_le_of_mem_lines (List.mem_of_getElem? hline)
  exact ⟨Decimal.length_digits_le_of_le (by omega) h.short,
    Decimal.length_digits_le_of_le (hcharacter.trans hlength) h.short⟩

/-- A piece of a line of a plain text can be sent. -/
theorem whole_of_subset (h : text.Plain) {line word : Line} {number : Nat}
    (hline : (lines text)[number]? = some line) (hword : word ⊆ line) :
    (Text.ofList word).holdsHalf = false := by
  have hwhole := h.whole
  rw [holdsHalf, List.any_eq_false] at hwhole ⊢
  exact fun c hc => hwhole c (mem_of_mem_lines (List.mem_of_getElem? hline) (hword hc)).1

/-- The word that a range covers can be sent. -/
theorem whole_of_covers (h : text.Plain) {range : Range} {word : Text}
    (hcovers : range.Covers (lines text) word.toList) : word.holdsHalf = false := by
  obtain ⟨-, line, hline, hword⟩ := hcovers
  have hsubset : word.toList ⊆ line := by
    rw [← hword]
    exact fun c hc => List.drop_subset _ _ ((slice_prefix_drop ..).subset hc)
  exact h.whole_of_subset hline hsubset

end Plain

end Text

open Text

/-- Documents that can be sent, with the numbers of their lines and columns. -/
structure Store.Plain (store : Store) : Prop where
  name : ∀ document ∈ store.entries, document.1.holdsHalf = false
  text : ∀ document ∈ store.entries, document.2.Plain

namespace Store

variable {store : Store} {uri : Text}

theorem Plain.of_get? (h : store.Plain) {text : Text} (htext : store.get? uri = some text) :
    uri.holdsHalf = false ∧ text.Plain :=
  ⟨h.name _ (mem_entries_of_get? htext), h.text _ (mem_entries_of_get? htext)⟩

/-- What holds of the lines of an open document holds of the lines of a plain text. -/
theorem Plain.of_hasLines (h : store.Plain) {holds : List Line → Prop}
    (hlines : store.HasLines uri holds) :
    uri.holdsHalf = false ∧ ∃ text : Text, text.Plain ∧ holds (lines text) := by
  obtain ⟨text, htext, hholds⟩ := hlines
  obtain ⟨huri, hplain⟩ := h.of_get? htext
  exact ⟨huri, text, hplain, hholds⟩

theorem Plain.textOf (h : store.Plain) (uri : Text) : (FeatureRequest.textOf store uri).Plain := by
  rw [FeatureRequest.textOf]
  cases htext : store.get? uri with
  | some text => exact (h.of_get? htext).2
  | none => exact ⟨rfl, by decide⟩

end Store

variable {room : Nat}

theorem sendable_nat_of_lt {n : Nat} (h : n < 100) : (Wire.nat n).Sendable room :=
  Json.Sendable.int_iff.mpr
    (Decimal.length_digits_le_of_le (Nat.le_of_lt_succ h) (n := 99) (by decide))

theorem Text.Plain.sendable_of_inside {text : Text} (htext : text.Plain) {range : Range}
    (h : range.Inside (lines text)) : range.toJson.Sendable (room + 2) :=
  (Range.sendable_toJson_iff (by omega)).mpr ⟨htext.printable h.start, htext.printable h.stop⟩

namespace Json.Sendable

variable {value : Json} {key : Text}

theorem of_field? (h : value.Sendable room) {inner : Json}
    (hfield : value.field? key = some inner) :
    inner.Sendable (room - 1) := by
  cases value with
  | obj fields =>
      obtain ⟨before, after, hfields, -⟩ := List.lookup_eq_some_iff.mp hfield
      have hmem : (key, inner) ∈ fields := hfields ▸ List.mem_append_right _ List.mem_cons_self
      exact ((obj_iff.mp h).2 _ hmem).2
  | null | bool | int | float | str | arr => cases hfield

theorem of_object? (h : value.Sendable room) {inner : Json}
    (hobject : value.object? key = some inner) : inner.Sendable (room - 1) := by
  obtain ⟨found, hfield, hfound⟩ := Option.bind_eq_some_iff.mp hobject
  cases found with
  | obj fields =>
      cases hfound
      exact h.of_field? hfield
  | null | bool | int | float | str | arr => cases hfound

theorem of_mem_array? (h : value.Sendable room) {items : List Json}
    (harray : value.array? key = some items) {item : Json} (hitem : item ∈ items) :
    item.Sendable (room - 2) := by
  obtain ⟨found, hfield, hfound⟩ := Option.bind_eq_some_iff.mp harray
  cases found with
  | arr items =>
      cases hfound
      exact (arr_iff.mp (h.of_field? hfield)).2 item hitem
  | null | bool | int | float | str | obj => cases hfound

theorem of_path? (h : value.Sendable room) {path : List Text} {inner : Json}
    (hpath : value.path? path = some inner) : inner.Sendable (room - path.length) := by
  induction path generalizing value room with
  | nil =>
      cases hpath
      exact h
  | cons key rest ih =>
      obtain ⟨found, hfield, hfound⟩ := Option.bind_eq_some_iff.mp hpath
      rw [List.length_cons, Nat.add_comm, ← Nat.sub_sub]
      exact ih (h.of_field? hfield) hfound

theorem of_string? (h : value.Sendable room) {s : Text} (hstring : value.string? key = some s) :
    s.holdsHalf = false := by
  rw [string?_eq_some_iff] at hstring
  exact str_iff.mp (h.of_path? hstring)

end Json.Sendable

/-- A list of results can be sent if each of them can. -/
theorem FeatureRequest.sendable_listJson {α : Type} {toJson : α → Json} {results : List α}
    (h : ∀ result ∈ results, (toJson result).Sendable room) :
    (listJson toJson results).Sendable (room + 1) := by
  rw [listJson, Json.Sendable.arr_iff]
  refine ⟨Nat.succ_pos room, fun item hitem => ?_⟩
  obtain ⟨result, hresult, rfl⟩ := List.mem_map.mp hitem
  exact h result hresult

theorem FeatureRequest.sendable_optionJson {α : Type} {toJson : α → Json} {result : Option α}
    (h : ∀ found, result = some found → (toJson found).Sendable room) :
    (optionJson toJson result).Sendable room := by
  cases result with
  | none => exact .null
  | some found => exact h found rfl

theorem Location.sendable_toJson {location : Location} (huri : location.uri.holdsHalf = false)
    (hrange : location.range.toJson.Sendable (room + 2)) :
    location.toJson.Sendable (room + 3) := by
  simp [toJson, Wire.location, huri, hrange]

theorem TextEdit.sendable_textEdit {range newText : Json} (hrange : range.Sendable room)
    (htext : newText.Sendable room) : (Wire.textEdit range newText).Sendable (room + 1) := by
  simp [Wire.textEdit, hrange, htext]

/-- The edits of one document. -/
theorem sendable_workspaceEdit {uri : Text} {edits : List Json} (huri : uri.holdsHalf = false)
    (hedits : ∀ edit ∈ edits, edit.Sendable room) :
    (Wire.workspaceEdit (.obj [(uri, .arr edits)])).Sendable (room + 3) := by
  simpa [Wire.workspaceEdit, huri] using hedits

namespace Completion

/-- All that is ever suggested are fixed words. -/
theorem whole_of_mem_offer {store : Store} {uri : Text} {position : Json} {item : Item}
    (h : item ∈ offer store uri position) : item.label.holdsHalf = false := by
  have heverywhere : ∀ item ∈ everywhere, item.label.holdsHalf = false := by
    simp [everywhere, basics]
  have hkeywords : ∀ word ∈ keywords, word.holdsHalf = false := by simp [keywords]
  have htypes : ∀ word ∈ typeNames, word.holdsHalf = false := by simp [typeNames]
  have hstart : ∀ typed, ∀ item ∈ forStart typed, item.label.holdsHalf = false := by
    intro typed item hitem
    rcases List.mem_append.mp hitem with hkeyword | htype
    · obtain ⟨word, hword, rfl⟩ := List.mem_map.mp hkeyword
      exact hkeywords word (List.mem_filter.mp hword).1
    · obtain ⟨word, hword, rfl⟩ := List.mem_map.mp htype
      exact htypes word (List.mem_filter.mp hword).1
  rw [offer] at h
  split at h
  · exact heverywhere item h
  · rw [suggestions] at h
    split at h
    · split at h
      · exact hstart _ item h
      · cases h
    · cases h

theorem Item.sendable_toJson {item : Item} (h : item.label.holdsHalf = false) :
    item.toJson.Sendable (room + 1) := by
  have hkind : (Wire.nat item.kind.toNat).Sendable room :=
    sendable_nat_of_lt (by cases item.kind <;> decide)
  simp [toJson, Wire.completionItem, Wire.optionalField, h, hkind]

theorem sendable_answer (store : Store) (uri : Text) (position : Option Json) :
    (FeatureRequest.completionAnswer store uri position).Sendable (room + 3) := by
  rw [FeatureRequest.completionAnswer]
  split
  · simpa [Wire.completionList] using
      fun item hitem => Item.sendable_toJson (whole_of_mem_offer hitem)
  · simp [Wire.completionList]

end Completion

theorem Hover.sendable_toJson {store : Store} {uri : Text} {position : Json} {explanation : Text}
    (h : at? store uri position = some explanation) : (toJson explanation).Sendable (room + 2) := by
  have hwhole : explanation.holdsHalf = false := by
    obtain ⟨word, -, hword⟩ := Option.bind_eq_some_iff.mp h
    rw [explanation?] at hword
    repeat' split at hword
    all_goals
      cases hword
      try exact holdsHalf_ofString _
  simp [toJson, Wire.hover, Wire.optionalField, hwhole]

theorem Reference.sendable_highlightJson {range : Range} (h : range.toJson.Sendable (room + 2)) :
    (highlightJson range).Sendable (room + 3) := by
  have hkind : (Wire.nat Wire.HighlightKind.text.toNat).Sendable (room + 2) :=
    sendable_nat_of_lt (by decide)
  simp [highlightJson, h, hkind]

theorem DocumentSymbol.sendable_toJson {text : Text} (htext : text.Plain) {symbol : DocumentSymbol}
    (h : symbol.Placed (lines text)) : symbol.toJson.Sendable (room + 3) := by
  have hkind : (Wire.nat symbol.kind.toNat).Sendable (room + 2) :=
    sendable_nat_of_lt (by cases symbol.kind <;> decide)
  simp [toJson, htext.whole_of_covers h.name, hkind, htext.sendable_of_inside h.range,
    htext.sendable_of_inside h.selection]

theorem CallItem.sendable_toJson {text : Text} (htext : text.Plain) {item : CallItem}
    (huri : item.uri.holdsHalf = false) (h : item.Placed (lines text)) :
    item.toJson.Sendable (room + 3) := by
  have hkind : (Wire.nat Wire.SymbolKind.function.toNat).Sendable (room + 2) :=
    sendable_nat_of_lt (by decide)
  simp [toJson, huri, htext.whole_of_covers h.name, hkind, htext.sendable_of_inside h.range,
    htext.sendable_of_inside h.selection]

theorem IncomingCall.sendable_toJson {text : Text} (htext : text.Plain) {call : IncomingCall}
    (huri : call.caller.uri.holdsHalf = false) (hcaller : call.caller.Placed (lines text))
    (hranges : ∀ range ∈ call.ranges, range.Inside (lines text)) :
    call.toJson.Sendable (room + 4) := by
  simpa [toJson, CallItem.sendable_toJson htext huri hcaller] using
    fun range hmem => htext.sendable_of_inside (hranges range hmem)

theorem FoldingRange.sendable_toJson {text : Text} (htext : text.Plain) {fold : FoldingRange}
    (h : fold ∈ ofText text) : fold.toJson.Sendable (room + 1) := by
  obtain ⟨hstart, hstop, -⟩ := inside_of_mem h
  obtain ⟨hstartLine, hstartCharacter⟩ := htext.printable hstart
  obtain ⟨hendLine, hendCharacter⟩ := htext.printable hstop
  simp [toJson, Wire.nat, hstartLine, hstartCharacter, hendLine, hendCharacter]

theorem InlayHint.sendable_toJson {hint : InlayHint} (h : hint.position.Printable) :
    hint.toJson.Sendable (room + 2) := by
  have hkind : (Wire.nat hint.kind.toNat).Sendable (room + 1) :=
    sendable_nat_of_lt (by cases hint.kind <;> decide)
  have hposition : hint.position.toJson.Sendable (room + 1) :=
    (Position.sendable_toJson_iff (Nat.succ_pos room)).mpr h
  simp [toJson, hkind, hposition]

theorem LinkedRanges.sendable_toJson {text : Text} (htext : text.Plain) {position : Json}
    {linked : LinkedRanges} (h : at? text position = some linked) :
    linked.toJson.Sendable (room + 4) := by
  have hranges : ∀ range ∈ linked.ranges, range.toJson.Sendable (room + 2) := fun _ hmem =>
    htext.sendable_of_inside (inside_of_at? h hmem)
  have hword : linked.word.holdsHalf = false := by
    rw [at?] at h
    split at h
    · cases h
    · obtain ⟨word, hword, rfl⟩ := Option.map_eq_some_iff.mp h
      obtain ⟨-, range, ⟨hone, line, hline, -, rfl⟩, -⟩ := identifierAt?_eq_some_iff.mp hword
      exact htext.whole_of_covers ⟨hone, line, hline, rfl⟩
  simpa [toJson, hword] using hranges

theorem whole_of_nameAfter? {text : Text} (htext : text.Plain) {number : Nat}
    {line lead name : Line} (hline : (lines text)[number]? = some line)
    {part : Line} (hpart : part <:+ line)
    (h : Declaration.nameAfter? lead part = some name) : (Text.ofList name).holdsHalf = false :=
  htext.whole_of_subset hline fun _ hc =>
    hpart.subset (List.drop_subset _ _ ((Declaration.prefix_of_nameAfter? h).2.subset hc))

theorem WorkspaceSymbol.whole_of_mem_ofDocument {query : Line} {uri text : Text}
    (htext : text.Plain) {symbol : WorkspaceSymbol} (h : symbol ∈ ofDocument query uri text) :
    symbol.name.holdsHalf = false := by
  rw [ofDocument] at h
  split at h
  · obtain ⟨number, line, hline, hmem⟩ := mem_zipIdx_flatMap_iff.mp h
    obtain ⟨entry, -, name, hname, -, rfl⟩ := mem_ofLine_iff.mp hmem
    exact whole_of_nameAfter? htext hline (List.dropWhile_suffix _) hname
  · cases h

theorem WorkspaceSymbol.sendable_toJson {store : Store} (hstore : store.Plain) {query : Text}
    {symbol : WorkspaceSymbol} (h : symbol ∈ search store query) :
    symbol.toJson.Sendable (room + 4) := by
  have hkind : (Wire.nat symbol.kind.toNat).Sendable (room + 3) :=
    sendable_nat_of_lt (by cases symbol.kind <;> decide)
  obtain ⟨huri, text, htext, hinside⟩ := hstore.of_hasLines (inside_of_mem h)
  have hlocation : symbol.location.toJson.Sendable (room + 3) :=
    Location.sendable_toJson huri (htext.sendable_of_inside hinside)
  have hname : symbol.name.holdsHalf = false := by
    rw [search] at h
    split at h
    · cases h
    · obtain ⟨document, hentry, hmem⟩ := List.mem_flatMap.mp h
      exact whole_of_mem_ofDocument (hstore.text document hentry) hmem
  simp [toJson, hname, hkind, hlocation]

theorem CodeLens.sendable_toJson {text : Text} (htext : text.Plain) {lens : CodeLens}
    (h : lens ∈ ofText text) : lens.toJson.Sendable (room + 3) := by
  have hrange : lens.range.toJson.Sendable (room + 2) :=
    htext.sendable_of_inside (inside_of_mem h)
  obtain ⟨declared, hmem, above, hlens⟩ := mem_ofLines h
  obtain ⟨name, hname, rfl⟩ := Option.map_eq_some_iff.mp hlens
  have hwhole := whole_of_nameAfter? htext (Declared.from_of_mem_all hmem).line
    (List.suffix_refl _) hname
  have hcommand : (commandFor above name).toJson.Sendable (room + 2) := by
    rw [commandFor]
    repeat' split
    all_goals simp [LensCommand.toJson, hwhole]
  simp [toJson, hrange, hcommand]

theorem Trimming.sendable_toJson {store : Store} (hstore : store.Plain) {uri : Text}
    {edit : TextEdit} (h : edit ∈ edits store uri) : edit.toJson.Sendable (room + 3) := by
  obtain ⟨-, text, htext, hinside⟩ := hstore.of_hasLines (inside_of_mem h)
  have hrange : edit.range.toJson.Sendable (room + 2) := htext.sendable_of_inside hinside
  have hwhole : edit.newText.holdsHalf = false := by
    rw [edits] at h
    split at h
    · cases h
    · next text' htext' =>
        obtain ⟨number, line, hline, hedit⟩ := mem_zipIdx_filterMap_iff.mp h
        rw [edit?] at hedit
        split at hedit
        · cases hedit
        · cases hedit
          exact (hstore.of_get? htext').2.whole_of_subset hline fun _ => mem_of_mem_trimmed
  simp [TextEdit.toJson, Wire.textEdit, hrange, hwhole]

namespace SemanticToken

variable {bound line start : Nat}

/-- The numbers of a token are not greater than those of its place and of the place of the token
before it. -/
theorem natAbs_le_of_mem_delta {token : SemanticToken} (hkind : 5 ≤ bound) (hline : line ≤ bound)
    (hstart : start ≤ bound) (htoken : token.line ≤ bound)
    (hstop : token.start + token.length ≤ bound) {n : Int} (h : n ∈ delta line start token) :
    n.natAbs ≤ bound := by
  have hnumber : token.kind.toNat ≤ 5 := by cases token.kind <;> decide
  simp only [delta, List.mem_cons, List.not_mem_nil, or_false] at h
  rcases h with rfl | rfl | rfl | rfl | rfl
  · omega
  · split <;> omega
  · omega
  · omega
  · exact Nat.zero_le bound

theorem natAbs_le_of_mem_encodeAfter {tokens : List SemanticToken} (hkind : 5 ≤ bound)
    (hline : line ≤ bound) (hstart : start ≤ bound)
    (htokens : ∀ token ∈ tokens, token.line ≤ bound ∧ token.start + token.length ≤ bound) {n : Int}
    (h : n ∈ encodeAfter line start tokens) : n.natAbs ≤ bound := by
  induction tokens generalizing line start with
  | nil => cases h
  | cons token rest ih =>
      obtain ⟨htoken, hstop⟩ := htokens token List.mem_cons_self
      rcases List.mem_append.mp h with hhere | hlater
      · exact natAbs_le_of_mem_delta hkind hline hstart htoken hstop hhere
      · exact ih htoken (Nat.le_of_add_right_le hstop)
          (fun later hmem => htokens later (List.mem_cons_of_mem _ hmem)) hlater

theorem sendable_answer {text : Text} (htext : text.Plain) : (answer text).Sendable (room + 2) := by
  obtain ⟨bound, hbound, hlength, hkind⟩ : ∃ bound,
      (Decimal.digits bound).length ≤ Decimal.digitLimit ∧ text.toList.length ≤ bound ∧
        5 ≤ bound := by
    rcases Nat.le_total text.toList.length 5 with hshort | hlong
    · exact ⟨5, by decide, hshort, Nat.le_refl 5⟩
    · exact ⟨_, htext.short, Nat.le_refl _, hlong⟩
  have htokens : ∀ token ∈ lex text,
      token.line ≤ bound ∧ token.start + token.length ≤ bound := by
    intro token htoken
    obtain ⟨-, line, hline, hstop⟩ := inside_of_mem_lex htoken
    have hnumber : token.line < (lines text).length := (List.getElem?_eq_some_iff.mp hline).1
    have hlines := length_lines_le text
    have hcolumns := length_le_of_mem_lines (List.mem_of_getElem? hline)
    exact ⟨by omega, by omega⟩
  have hnumbers : ∀ n ∈ encode (lex text), (Json.int n).Sendable room := fun n hn =>
    Json.Sendable.int_iff.mpr (Decimal.length_digits_le_of_le
      (natAbs_le_of_mem_encodeAfter hkind (Nat.zero_le _) (Nat.zero_le _) htokens hn) hbound)
  simpa [answer] using hnumbers

end SemanticToken

theorem Signature.sendable_toJson {entry : Line × Signature} (h : entry ∈ known) :
    entry.2.toJson.Sendable (room + 3) := by
  have hknown : ∀ entry ∈ known, entry.2.label.holdsHalf = false ∧
      ∀ parameter ∈ entry.2.parameters,
        parameter.1.holdsHalf = false ∧ parameter.2.holdsHalf = false := by
    simp [known, -Prod.forall]
  obtain ⟨hlabel, hparameters⟩ := hknown entry h
  rw [toJson, Json.Sendable.obj_iff, List.forall_mem_cons, List.forall_mem_singleton,
    Json.Sendable.arr_iff]
  refine ⟨Nat.succ_pos _, ⟨holdsHalf_ofString _, Json.Sendable.str_iff.mpr hlabel⟩,
    holdsHalf_ofString _, Nat.succ_pos _, fun item hitem => ?_⟩
  obtain ⟨parameter, hmem, rfl⟩ := List.mem_map.mp hitem
  simp [hparameters parameter hmem]

namespace SignatureHelp

theorem commasAtOne_le_length (depth : Int) (text : List CodePoint) :
    OpenCall.commasAtOne depth text ≤ text.length := by
  induction text generalizing depth with
  | nil => exact Nat.le_refl 0
  | cons c rest ih =>
      have hopened := ih (depth + 1)
      have hclosed := ih (depth - 1)
      have hsame := ih depth
      rw [OpenCall.commasAtOne, List.length_cons]
      repeat' split
      all_goals omega

theorem activeParameter_le {line : Line} {column : Nat} {call : OpenCall}
    (h : OpenCall.at? line column = some call) : call.activeParameter ≤ line.length := by
  have hinside : call.inside.length ≤ line.length := by
    simp only [OpenCall.at?, OpenCall.atEnd?] at h
    split at h
    · cases h
    · split at h
      · cases h
      · cases h
        simp only [List.length_drop, List.length_take]
        omega
  exact (commasAtOne_le_length 0 call.inside).trans hinside

theorem sendable_toJson {store : Store} (hstore : store.Plain) {uri : Text} {position : Json}
    {help : SignatureHelp} (h : at? store uri position = some help) :
    help.toJson.Sendable (room + 5) := by
  rw [at?] at h
  split at h
  · next text cursor htext hcursor =>
      split at h
      · cases h
      · obtain ⟨line, hline, hcall⟩ := Option.bind_eq_some_iff.mp h
        obtain ⟨call, hopen, hhelp⟩ := Option.bind_eq_some_iff.mp hcall
        obtain ⟨signature, hsignature, rfl⟩ := Option.map_eq_some_iff.mp hhelp
        obtain ⟨before, after, hentries, -⟩ := List.lookup_eq_some_iff.mp hsignature
        have hmem : (call.callee, signature) ∈ Signature.known :=
          hentries ▸ List.mem_append_right _ List.mem_cons_self
        have hactive : (Decimal.digits call.activeParameter).length ≤ Decimal.digitLimit :=
          Decimal.length_digits_le_of_le
            ((activeParameter_le hopen).trans
              (length_le_of_mem_lines (List.mem_of_getElem? hline)))
            (hstore.of_get? htext).2.short
        have hfirst : (Decimal.digits 0).length ≤ Decimal.digitLimit := by decide
        simp [toJson, Wire.nat, hfirst, hactive, Signature.sendable_toJson hmem]
  · cases h

end SignatureHelp

namespace Selection

theorem length_merged_le (parts : List Range) :
    (parts.foldr (fun part outer =>
      if outer.head? = some part then outer else part :: outer) []).length ≤ parts.length := by
  induction parts with
  | nil => exact Nat.le_refl 0
  | cons first rest ih =>
      rw [List.foldr_cons]
      split
      · exact Nat.le_succ_of_le ih
      · exact Nat.succ_le_succ ih

theorem length_chain_le (characters : List (Position × CodePoint)) (number : Nat) (line : Line)
    (column : Nat) : (chain characters number line column).length ≤ 3 := by
  refine (length_merged_le _).trans ?_
  have hblock (part : Option Range) : part.toList.length ≤ 1 := by cases part <;> simp
  have hlast := hblock (block? characters number
    (statementStart line (runStart isNameChar line column))
    (statementStop line (runStop isNameChar line column)))
  rw [List.length_append, List.length_cons]
  split
  · rw [List.length_singleton]
    omega
  · rw [List.length_nil]
    omega

/-- A chain is nested as deep as it is long, around its last part. -/
theorem sendable_toJson {text : Text} (htext : text.Plain) {parts : List Range}
    (h : ∀ part ∈ parts, part.Inside (lines text)) :
    (toJson parts).Sendable (room + parts.length + 2) := by
  induction parts using toJson.induct with
  | case1 => exact .null
  | case2 part =>
      have hrange : part.toJson.Sendable (room + 2) :=
        htext.sendable_of_inside (h part List.mem_cons_self)
      rw [toJson, List.length_singleton, Nat.add_right_comm]
      simp [hrange]
  | case3 part outer hne ih =>
      have hrange : part.toJson.Sendable (room + outer.length + 2) :=
        htext.sendable_of_inside (h part List.mem_cons_self)
      have houter := ih fun part hmem => h part (List.mem_cons_of_mem _ hmem)
      have hroom : room + (part :: outer).length + 2 = room + outer.length + 2 + 1 := by
        rw [List.length_cons]
        omega
      rw [toJson.eq_3 part outer hne, hroom]
      simp [hrange, houter]

theorem sendable_of_mem {text : Text} (htext : text.Plain) {positions : List Json}
    {parts : List Range} (h : parts ∈ ofText text positions) :
    (toJson parts).Sendable (room + 5) := by
  have hlength : parts.length ≤ 3 := by
    obtain ⟨position, -, hposition⟩ := List.mem_filterMap.mp h
    obtain ⟨cursor, -, hchain⟩ := Option.bind_eq_some_iff.mp hposition
    obtain ⟨⟨line, column⟩, -, rfl⟩ := Option.map_eq_some_iff.mp hchain
    exact length_chain_le ..
  have hroom : room + 5 = room + (3 - parts.length) + parts.length + 2 := by omega
  rw [hroom]
  exact sendable_toJson htext fun part hpart => inside_of_mem h hpart

end Selection

namespace CodeAction

/-- The range of a warning that is fixed stands four deep among the parameters, and five deep in
the action. -/
theorem sendable_of_mem_fixes {params : Json} (hparams : params.Sendable (room + 4)) {uri : Text}
    (huri : uri.holdsHalf = false) {bounds action : Json}
    (h : action ∈ fixes uri bounds
      (((params.object? "context").bind fun context => context.array? "diagnostics").getD [])) :
    action.Sendable (room + 5) := by
  rw [fixes] at h
  split at h
  · cases h
  · obtain ⟨range, hfixable, rfl⟩ := List.mem_map.mp h
    obtain ⟨diagnostic, hdiagnostic, hrange⟩ := List.mem_filterMap.mp hfixable
    have hsent : diagnostic.Sendable (room + 1) := by
      cases hgiven :
          (params.object? "context").bind fun context => context.array? "diagnostics" with
      | none =>
          rw [hgiven] at hdiagnostic
          cases hdiagnostic
      | some diagnostics =>
          rw [hgiven] at hdiagnostic
          obtain ⟨context, hcontext, harray⟩ := Option.bind_eq_some_iff.mp hgiven
          exact (hparams.of_object? hcontext).of_mem_array? harray hdiagnostic
    have hplace : range.Sendable room := by
      rw [fixable?] at hrange
      split at hrange
      · exact hsent.of_object? (Option.filter_eq_some_iff.mp hrange).1
      · cases hrange
    have hremoved : (Wire.textEdit range (.str "")).Sendable (room + 1) :=
      TextEdit.sendable_textEdit hplace (Json.Sendable.str_iff.mpr (holdsHalf_ofString _))
    have hedit := sendable_workspaceEdit huri (List.forall_mem_singleton.mpr hremoved)
    simp [removal, hedit]

end CodeAction

namespace FeatureRequest

theorem bind_eq_ok_iff {α β : Type} {first : Except Required α} {next : α → Except Required β}
    {b : β} : (first >>= next) = .ok b ↔ ∃ a, first = .ok a ∧ next a = .ok b := by
  cases first with
  | error missing => simp [bind, Except.bind]
  | ok a => simp [bind, Except.bind]

theorem require_eq_ok_iff {α : Type} {what : Required} {value : Option α} {a : α} :
    require what value = .ok a ↔ value = some a := by
  cases value <;> simp [require]

/-- The document in question has a name that can be sent. -/
theorem whole_of_requireUri {params : Json} (hparams : params.Sendable room) {uri : Text}
    (h : requireUri params = .ok uri) : uri.holdsHalf = false := by
  rw [requireUri, require_eq_ok_iff, Sync.uri?_eq_some_iff] at h
  exact Json.Sendable.str_iff.mp (hparams.of_path? h.1)

/-- An answer can be sent if the open documents and the parameters can. -/
theorem sendable_answer {store : Store} (hstore : store.Plain) {params : Json}
    (hparams : params.Sendable (room + 4)) {request : FeatureRequest} {result : Json}
    (h : request.answer store params = .ok result) : result.Sendable (room + 6) := by
  cases request with
  | completion =>
      obtain ⟨uri, huri, hresult⟩ := bind_eq_ok_iff.mp h
      cases hresult
      exact Completion.sendable_answer store uri _
  | hover =>
      obtain ⟨⟨uri, position⟩, hplace, hresult⟩ := bind_eq_ok_iff.mp h
      cases hresult
      exact sendable_optionJson fun _ => Hover.sendable_toJson
  | definition =>
      obtain ⟨⟨uri, position⟩, hplace, hresult⟩ := bind_eq_ok_iff.mp h
      cases hresult
      refine sendable_optionJson fun location hlocation => ?_
      obtain ⟨huri, text, htext, hinside⟩ := hstore.of_hasLines (Definition.inside_of_at? hlocation)
      exact Location.sendable_toJson huri (htext.sendable_of_inside hinside)
  | references =>
      obtain ⟨⟨uri, position⟩, hplace, hresult⟩ := bind_eq_ok_iff.mp h
      cases hresult
      refine sendable_listJson fun location hlocation => ?_
      obtain ⟨range, hrange, rfl⟩ := List.mem_map.mp hlocation
      obtain ⟨huri, text, htext, hinside⟩ :=
        hstore.of_hasLines (Reference.inside_of_mem_highlights hrange)
      exact Location.sendable_toJson huri (htext.sendable_of_inside hinside)
  | documentHighlight =>
      obtain ⟨⟨uri, position⟩, hplace, hresult⟩ := bind_eq_ok_iff.mp h
      cases hresult
      refine sendable_listJson fun range hrange => ?_
      obtain ⟨-, text, htext, hinside⟩ :=
        hstore.of_hasLines (Reference.inside_of_mem_highlights hrange)
      exact Reference.sendable_highlightJson (htext.sendable_of_inside hinside)
  | rename =>
      obtain ⟨⟨uri, position⟩, hplace, hresult⟩ := bind_eq_ok_iff.mp h
      obtain ⟨newName, hnewName, hresult⟩ := bind_eq_ok_iff.mp hresult
      cases hresult
      have hwhole : newName.holdsHalf = false :=
        hparams.of_string? (Option.filter_eq_some_iff.mp (require_eq_ok_iff.mp hnewName)).1
      cases hrename : Reference.rename? store uri position newName with
      | none => exact .null
      | some edit =>
          obtain ⟨ranges, hranges, rfl⟩ := Option.map_eq_some_iff.mp hrename
          obtain ⟨huri, text, htext, hinside⟩ :=
            hstore.of_hasLines (Reference.inside_of_occurrences? hranges)
          refine sendable_workspaceEdit huri fun edit hedit => ?_
          obtain ⟨range, hrange, rfl⟩ := List.mem_map.mp hedit
          exact TextEdit.sendable_textEdit
            (htext.sendable_of_inside (hinside range hrange))
            (Json.Sendable.str_iff.mpr hwhole)
  | documentSymbol =>
      obtain ⟨uri, huri, hresult⟩ := bind_eq_ok_iff.mp h
      cases hresult
      refine sendable_listJson fun symbol hsymbol => ?_
      obtain ⟨-, text, htext, hplaced⟩ := hstore.of_hasLines (DocumentSymbol.placed_of_mem hsymbol)
      exact DocumentSymbol.sendable_toJson htext hplaced
  | workspaceSymbol =>
      cases h
      exact sendable_listJson fun symbol => WorkspaceSymbol.sendable_toJson hstore
  | codeAction =>
      obtain ⟨⟨uri, range⟩, hpart, hresult⟩ := bind_eq_ok_iff.mp h
      obtain ⟨uri', huri, hrange⟩ := bind_eq_ok_iff.mp hpart
      obtain ⟨range', -, hpair⟩ := bind_eq_ok_iff.mp hrange
      cases hpair
      cases hresult
      have hwhole := whole_of_requireUri hparams huri
      exact Json.Sendable.arr_iff.mpr ⟨Nat.succ_pos _, fun action =>
        CodeAction.sendable_of_mem_fixes hparams hwhole⟩
  | codeLens =>
      obtain ⟨uri, huri, hresult⟩ := bind_eq_ok_iff.mp h
      cases hresult
      exact sendable_listJson fun lens =>
        CodeLens.sendable_toJson (hstore.textOf uri)
  | formatting =>
      obtain ⟨uri, huri, hresult⟩ := bind_eq_ok_iff.mp h
      cases hresult
      exact sendable_listJson fun edit => Trimming.sendable_toJson hstore
  | foldingRange =>
      obtain ⟨uri, huri, hresult⟩ := bind_eq_ok_iff.mp h
      cases hresult
      exact sendable_listJson fun fold =>
        FoldingRange.sendable_toJson (hstore.textOf uri)
  | inlayHint =>
      obtain ⟨⟨uri, range⟩, hpart, hresult⟩ := bind_eq_ok_iff.mp h
      cases hresult
      refine sendable_listJson fun hint hhint => ?_
      obtain ⟨-, text, htext, hinside⟩ := hstore.of_hasLines (InlayHint.inside_of_mem hhint)
      exact InlayHint.sendable_toJson (htext.printable hinside)
  | signatureHelp =>
      obtain ⟨⟨uri, position⟩, hplace, hresult⟩ := bind_eq_ok_iff.mp h
      cases hresult
      exact sendable_optionJson fun _ => SignatureHelp.sendable_toJson hstore
  | linkedEditingRange =>
      obtain ⟨⟨uri, position⟩, hplace, hresult⟩ := bind_eq_ok_iff.mp h
      cases hresult
      exact sendable_optionJson fun _ =>
        LinkedRanges.sendable_toJson (hstore.textOf uri)
  | semanticTokens =>
      obtain ⟨uri, huri, hresult⟩ := bind_eq_ok_iff.mp h
      cases hresult
      exact SemanticToken.sendable_answer (hstore.textOf uri)
  | selectionRange =>
      obtain ⟨uri, huri, hresult⟩ := bind_eq_ok_iff.mp h
      obtain ⟨positions, hpositions, hresult⟩ := bind_eq_ok_iff.mp hresult
      cases hresult
      exact sendable_listJson fun _ =>
        Selection.sendable_of_mem (hstore.textOf uri)
  | prepareCallHierarchy =>
      obtain ⟨⟨uri, position⟩, hplace, hresult⟩ := bind_eq_ok_iff.mp h
      cases hresult
      refine sendable_optionJson fun items hitems => sendable_listJson fun item hitem => ?_
      obtain ⟨huri, text, htext, hplaced⟩ :=
        hstore.of_hasLines (CallItem.placed_of_prepare? hitems hitem)
      exact CallItem.sendable_toJson htext huri hplaced
  | incomingCalls =>
      obtain ⟨item, hitem, hname⟩ := bind_eq_ok_iff.mp h
      obtain ⟨name, hname, hresult⟩ := bind_eq_ok_iff.mp hname
      cases hresult
      refine sendable_listJson fun call hcall => ?_
      obtain ⟨huri, text, htext, hcaller, hranges⟩ :=
        hstore.of_hasLines (IncomingCall.placed_of_mem hcall)
      exact IncomingCall.sendable_toJson htext huri hcaller hranges

end FeatureRequest

end LanguageServer
