/-
# One function in three views

A function that starts a line is shown in three ways: by a lens above it, as a symbol of its
document, and among the functions that a call hierarchy starts from. The lens and the symbol look
for the keyword at the very start of the line. The call hierarchy takes the identifier around the
cursor, and then looks for the keyword behind the blanks of each line of each document.

All of them mean the word that stands directly behind the keyword: lenses and symbols are the
same, in the same order, and from each column of a symbol's name the call hierarchy finds the
function of the symbol, where the name is an identifier (`DocumentSymbol.views_agree`).
-/

import LanguageServer.Proofs.PlacesInside
import LanguageServer.Proofs.WordRun

namespace LanguageServer

open Text

namespace Declaration

variable {line name : Line} {stop : Nat}

/-- A line starts with the keyword of functions, and the word directly behind it ends at a
column. -/
structure StartsLine (line : Line) (stop : Nat) : Prop where
  lead : functionLead <+: line
  name : IsRun isWordChar line functionLead.length stop

/-- The blank of the keyword is no part of the word behind it. -/
theorem before_name (h : functionLead <+: line) :
    (characterBefore none line functionLead.length).any isWordChar = false := by
  obtain ⟨rest, rfl⟩ := h
  show isWordChar ' ' = false
  decide +kernel

/-- The name behind the keyword is the word that stands there. -/
theorem nameAfter?_functionLead_iff :
    nameAfter? functionLead line = some name ↔
      ∃ stop, StartsLine line stop ∧ slice line functionLead.length stop = name := by
  rw [nameAfter?]
  constructor
  · intro h
    split at h
    · next hlead =>
        have hstart := List.isPrefixOf_iff_prefix.mp hlead
        simp only [Option.ite_none_left_eq_some, Option.some.injEq] at h
        obtain ⟨hne, rfl⟩ := h
        have hclass : ∀ c ∈ leadingWord (line.drop functionLead.length), isWordChar c = true :=
          fun c => List.mem_takeWhile_imp
        obtain ⟨hword, hafter⟩ := (takeWhile_drop_eq_iff hclass).mp rfl
        obtain ⟨hrun, hslice⟩ := (isRun_word_iff (mt List.isEmpty_iff.mpr hne) hclass).mpr
          ⟨rfl, hword, before_name hstart, hafter⟩
        exact ⟨_, ⟨hstart, hrun⟩, hslice⟩
    · cases h
  · rintro ⟨stop, ⟨hlead, hrun⟩, rfl⟩
    have hclass : ∀ c ∈ slice line functionLead.length stop, isWordChar c = true :=
      fun c => hrun.of_mem_slice
    obtain ⟨hstop, hword, -, hafter⟩ :=
      (isRun_word_iff hrun.slice_ne_nil hclass).mp ⟨hrun, rfl⟩
    rw [hstop] at hafter
    have hname : leadingWord (line.drop functionLead.length) =
        slice line functionLead.length stop := (takeWhile_drop_eq_iff hclass).mpr ⟨hword, hafter⟩
    rw [if_pos (List.isPrefixOf_iff_prefix.mpr hlead), hname]
    exact if_neg (mt List.isEmpty_iff.mp hrun.slice_ne_nil)

/-- A line that starts with the keyword is not indented. -/
theorem trimStart_of_lead (h : functionLead <+: line) : trimStart line = line := by
  obtain ⟨rest, rfl⟩ := h
  exact List.dropWhile_cons_of_neg (by decide)

theorem StartsLine.function? (h : StartsLine line stop) :
    function? line = some (slice line functionLead.length stop) := by
  rw [Declaration.function?, name?, trimStart_of_lead h.lead]
  exact nameAfter?_functionLead_iff.mpr ⟨stop, h, rfl⟩

theorem StartsLine.functionColumn (h : StartsLine line stop) :
    functionColumn line = functionLead.length := by
  rw [Declaration.functionColumn, trimStart_of_lead h.lead, Nat.sub_self, Nat.zero_add]

end Declaration

namespace DocumentSymbol

variable {store : Store} {uri text : Text} {symbol : DocumentSymbol}

/-- The symbol of a function that starts a line and whose name ends at a column. -/
def ofName (line : Line) (number stop : Nat) : DocumentSymbol where
  name := Text.ofList (slice line Declaration.functionLead.length stop)
  kind := .function
  range := .onLine number 0 line.length
  selection := .onLine number Declaration.functionLead.length stop

theorem ofLine?_eq_some_iff {line : Line} {number : Nat} :
    ofLine? line number = some symbol ↔
      ∃ stop, Declaration.StartsLine line stop ∧ symbol = ofName line number stop := by
  rw [ofLine?, Option.map_eq_some_iff]
  simp only [Declaration.nameAfter?_functionLead_iff]
  constructor
  · rintro ⟨name, ⟨stop, hstarts, rfl⟩, rfl⟩
    exact ⟨stop, hstarts, by rw [← hstarts.name.stop_eq, ofName]⟩
  · rintro ⟨stop, hstarts, rfl⟩
    exact ⟨_, ⟨stop, hstarts, rfl⟩, by rw [← hstarts.name.stop_eq, ofName]⟩

theorem ofDocument_eq_filterMap (h : store.get? uri = some text) :
    ofDocument store uri =
      (lines text).zipIdx.filterMap fun entry => ofLine? entry.1 entry.2 := by
  rw [ofDocument, h]

/-- The symbols of a document are its lines that start with the keyword and a name. -/
theorem mem_ofDocument_iff (h : store.get? uri = some text) :
    symbol ∈ ofDocument store uri ↔
      ∃ number line stop, (lines text)[number]? = some line ∧ Declaration.StartsLine line stop ∧
        symbol = ofName line number stop := by
  rw [ofDocument_eq_filterMap h]
  refine (mem_zipIdx_filterMap_iff (f := ofLine?)).trans ?_
  simp only [ofLine?_eq_some_iff, exists_and_left]

/-- The symbols of a document are in the order of its lines. -/
theorem pairwise_ofDocument (store : Store) (uri : Text) :
    (ofDocument store uri).Pairwise fun a b => a.selection.start.line < b.selection.start.line := by
  cases hget : store.get? uri with
  | none =>
      rw [ofDocument, hget]
      exact List.Pairwise.nil
  | some text =>
      rw [ofDocument_eq_filterMap hget, List.pairwise_filterMap]
      refine (pairwise_zipIdx (lines text)).imp fun hlt a ha b hb => ?_
      obtain ⟨-, -, rfl⟩ := ofLine?_eq_some_iff.mp ha
      obtain ⟨-, -, rfl⟩ := ofLine?_eq_some_iff.mp hb
      exact hlt

end DocumentSymbol

/-- The lenses of lines are above the names of their symbols, whatever they offer to do. -/
theorem CodeLens.map_range_ofLines (previous : Option Line) (number : Nat) (lines : List Line) :
    (ofLines previous number lines).map CodeLens.range =
      (lines.zipIdx number).filterMap fun entry =>
        (DocumentSymbol.ofLine? entry.1 entry.2).map DocumentSymbol.selection := by
  induction lines generalizing previous number with
  | nil => rfl
  | cons line rest ih =>
      rw [ofLines, List.map_append, ih, List.zipIdx_cons, List.filterMap_cons, ofLine?,
        DocumentSymbol.ofLine?]
      cases Declaration.nameAfter? Declaration.functionLead line <;> rfl

namespace CallItem

variable {store : Store} {uri text : Text} {name : Line} {item : CallItem}

theorem mem_inDocument {declared : Declared} (hfrom : declared.From (lines text))
    (h : Declaration.function? declared.line = some name) :
    ofDeclared uri declared ∈ inDocument name uri text := by
  rw [inDocument, List.mem_filterMap]
  exact ⟨declared, Declared.mem_all_iff.mpr ⟨Nat.zero_le _, hfrom⟩, if_pos h⟩

/-- The functions of the identifier at a cursor are found if there is any. -/
theorem mem_prepare? {position : Json} {cursor : Cursor} (hget : store.get? uri = some text)
    (hcursor : Cursor.ofJson? position = some cursor)
    (hname : identifierAt? (lines text) cursor = some name)
    (hitem : item ∈ store.entries.flatMap fun entry => inDocument name entry.1 entry.2) :
    ∃ items, prepare? store uri position = some items ∧ item ∈ items := by
  simp only [prepare?, hget, hcursor, hname]
  split
  · next hnone =>
      rw [hnone] at hitem
      cases hitem
  · exact ⟨_, rfl, hitem⟩

/-- An item of a call hierarchy is the function that a symbol of a document shows. -/
structure Shows (item : CallItem) (uri : Text) (symbol : DocumentSymbol) : Prop where
  uri : item.uri = uri
  name : item.name = symbol.name
  selection : item.selection = symbol.selection
  start : item.range.start = ⟨symbol.selection.start.line, 0⟩
  within : symbol.selection.Within item.range

/-- The function that a line declares at its very start is the one of its symbol. -/
theorem shows_ofDeclared {declared : Declared} {lines : List Line} {stop : Nat}
    (hfrom : declared.From lines) (h : Declaration.StartsLine declared.line stop) :
    (ofDeclared uri declared).Shows uri
      (DocumentSymbol.ofName declared.line declared.number stop) := by
  have hname := h.function?
  have hselection : (ofDeclared uri declared).selection =
      (DocumentSymbol.ofName declared.line declared.number stop).selection := by
    simp only [ofDeclared, hname, Option.getD_some, h.functionColumn, ← h.name.stop_eq,
      DocumentSymbol.ofName]
  refine ⟨rfl, ?_, hselection, rfl, ?_⟩
  · simp only [ofDeclared, hname, Option.getD_some, DocumentSymbol.ofName]
  · rw [← hselection]
    exact (placed_ofDeclared hfrom hname uri).within

end CallItem

namespace DocumentSymbol

variable {store : Store} {uri text : Text} {symbol : DocumentSymbol}

/-- The function of a symbol is one of its document. -/
theorem exists_shows (hget : store.get? uri = some text) (h : symbol ∈ ofDocument store uri) :
    ∃ item ∈ CallItem.inDocument symbol.name.toList uri text, item.Shows uri symbol := by
  obtain ⟨number, line, stop, hline, hstarts, rfl⟩ := (mem_ofDocument_iff hget).mp h
  have hfrom : Declared.From ⟨number, line, (lines text).drop (number + 1)⟩ (lines text) := by
    obtain ⟨hlt, rfl⟩ := List.getElem?_eq_some_iff.mp hline
    exact List.drop_eq_getElem_cons hlt
  have hname : Declaration.function? line = some (ofName line number stop).name.toList := by
    rw [hstarts.function?, ofName]
  exact ⟨_, CallItem.mem_inDocument hfrom hname, CallItem.shows_ofDeclared hfrom hstarts⟩

/-- From each column of a symbol's name, its function is found. -/
theorem exists_shows_prepare? {position : Json} {cursor : Cursor}
    (hget : store.get? uri = some text) (h : symbol ∈ ofDocument store uri)
    (hstart : symbol.name.toList.head?.any isIdentifierStart = true)
    (hcursor : Cursor.ofJson? position = some cursor) (hholds : symbol.selection.Holds cursor) :
    ∃ items, CallItem.prepare? store uri position = some items ∧
      ∃ item ∈ items, item.Shows uri symbol := by
  obtain ⟨item, hitem, hshows⟩ := exists_shows hget h
  have hword : symbol.selection.IsWord (lines text) symbol.name.toList := by
    obtain ⟨number, line, stop, hline, hstarts, rfl⟩ := (mem_ofDocument_iff hget).mp h
    exact ⟨rfl, line, hline, hstarts.name, rfl⟩
  have hname : identifierAt? (lines text) cursor = some symbol.name.toList :=
    identifierAt?_eq_some_iff.mpr ⟨hstart, symbol.selection, hword, hholds⟩
  have hall : item ∈ store.entries.flatMap fun entry =>
      CallItem.inDocument symbol.name.toList entry.1 entry.2 :=
    List.mem_flatMap.mpr ⟨(uri, text), Store.mem_entries_of_get? hget, hitem⟩
  obtain ⟨items, hitems, hmem⟩ := CallItem.mem_prepare? hget hcursor hname hall
  exact ⟨items, hitems, item, hmem, hshows⟩

/-- The three views of a function agree. The lenses of an open document are above the names of
its symbols, in the same order. The symbols are, line by line, the words directly behind the
keyword at the start of a line. Where such a name is an identifier, a call hierarchy can be
started from each of its columns, and what it starts from shows the function of the symbol. -/
theorem views_agree (hget : store.get? uri = some text) :
    (CodeLens.ofText text).map CodeLens.range = (ofDocument store uri).map selection ∧
      ((ofDocument store uri).Pairwise fun a b =>
        a.selection.start.line < b.selection.start.line) ∧
      (∀ symbol, symbol ∈ ofDocument store uri ↔
        ∃ number line stop, (lines text)[number]? = some line ∧
          Declaration.StartsLine line stop ∧ symbol = ofName line number stop) ∧
      ∀ symbol ∈ ofDocument store uri,
        symbol.name.toList.head?.any isIdentifierStart = true →
          ∀ position cursor, Cursor.ofJson? position = some cursor →
            symbol.selection.Holds cursor →
              ∃ items, CallItem.prepare? store uri position = some items ∧
                ∃ item ∈ items, item.Shows uri symbol := by
  refine ⟨?_, pairwise_ofDocument store uri, fun symbol => mem_ofDocument_iff hget, ?_⟩
  · rw [CodeLens.ofText, CodeLens.map_range_ofLines, ofDocument_eq_filterMap hget,
      List.map_filterMap]
  · intro symbol hsymbol hstart position cursor
    exact exists_shows_prepare? hget hsymbol hstart

/-- A function that another document declares, too, though indented, one whose name starts with a
numeral, and a line without a blank behind the keyword. -/
theorem views_of_main_agree :
    let text := "fn main() \x7b\n  g()\n\x7d\nfn 9() \x7b\x7d\nfn(x)"
    let store := Store.ofList
      [("file:///a.toy", "mod a \x7b\n  fn main() \x7b\x7d\n\x7d"), ("file:///b.toy", text)]
    let symbol : DocumentSymbol := ⟨"main", .function, .onLine 0 0 11, .onLine 0 3 7⟩
    store.get? "file:///b.toy" = some text ∧
      (CodeLens.ofText text).map CodeLens.range = [symbol.selection, .onLine 3 3 4] ∧
      ∀ column : Nat, 3 ≤ column → column < 7 → ∃ items,
        CallItem.prepare? store "file:///b.toy" (Position.toJson ⟨0, column⟩) = some items ∧
          ∃ item ∈ items, item.Shows "file:///b.toy" symbol := by
  intro text store symbol
  have hget : store.get? "file:///b.toy" = some text := by decide +kernel
  have hsymbols : ofDocument store "file:///b.toy" =
      [symbol, ⟨"9", .function, .onLine 3 0 9, .onLine 3 3 4⟩] := by decide +kernel
  obtain ⟨hranges, -, -, hprepare⟩ := views_agree hget
  refine ⟨hget, ?_, ?_⟩
  · rw [hranges, hsymbols]
    rfl
  · intro column hstart hstop
    refine hprepare symbol ?_ (by decide +kernel) _ ⟨0, column⟩ rfl ?_
    · rw [hsymbols]
      exact List.mem_cons_self
    · exact ⟨rfl, Int.ofNat_le.mpr hstart, Int.ofNat_lt.mpr hstop⟩

end DocumentSymbol

end LanguageServer
