/-
# Computed places lie inside

Every place that the server computes from the open documents lies inside the document
that it is about, and a part that is shown as a name is that name
(`Store.places_inside`).
-/

import LanguageServer.Feature.CodeLens
import LanguageServer.Feature.InlayHint
import LanguageServer.Feature.LinkedEditing
import LanguageServer.Feature.Reference
import LanguageServer.Feature.Diagnostic
import LanguageServer.Feature.Selection
import LanguageServer.Feature.Symbol
import LanguageServer.Feature.Trimming
import LanguageServer.Proofs.BlockPlace

namespace LanguageServer

open Text

theorem Text.inside_of_mem_firstOccurrences {word : Line} {lines : List Line} {range : Range}
    (h : range ∈ firstOccurrences word lines) : range.Inside lines := by
  obtain ⟨number, line, hline, hrange⟩ :=
    (mem_zipIdx_filterMap_iff (f := fun line number =>
      (find? word line).map fun column =>
        Range.onLine number column (column + word.length))).mp h
  obtain ⟨column, hcolumn, rfl⟩ := Option.map_eq_some_iff.mp hrange
  exact Range.inside_word hline (end_le_of_find? hcolumn)

theorem Reference.inside_of_occurrences? {store : Store} {uri : Text} {position : Json}
    {ranges : List Range} (h : occurrences? store uri position = some ranges) :
    store.HasLines uri fun lines => ∀ range ∈ ranges, range.Inside lines := by
  rw [occurrences?] at h
  split at h
  · next text htext =>
      split at h
      · cases h
        exact ⟨text, htext, fun _ => inside_of_mem_firstOccurrences⟩
      · cases h
  · cases h

/-- The occurrences are reported as an empty list where there are none. -/
theorem Reference.inside_of_mem_highlights {store : Store} {uri : Text} {position : Json}
    {range : Range} (h : range ∈ highlights store uri position) :
    store.HasLines uri fun lines => range.Inside lines := by
  rw [highlights] at h
  cases hoccurrences : occurrences? store uri position with
  | none =>
      rw [hoccurrences] at h
      cases h
  | some ranges =>
      rw [hoccurrences] at h
      obtain ⟨text, htext, hinside⟩ := inside_of_occurrences? hoccurrences
      exact ⟨text, htext, hinside range h⟩

theorem LinkedRanges.inside_of_at? {text : Text} {position : Json} {linked : LinkedRanges}
    (h : at? text position = some linked) {range : Range} (hrange : range ∈ linked.ranges) :
    range.Inside (lines text) := by
  rw [at?] at h
  split at h
  · cases h
  · obtain ⟨word, -, rfl⟩ := Option.map_eq_some_iff.mp h
    obtain ⟨number, line, hline, hmem⟩ := mem_zipIdx_flatMap_iff.mp hrange
    obtain ⟨start, hstart, rfl⟩ := List.mem_map.mp hmem
    refine Range.inside_word hline (end_le_of_mem_wordStarts (fun text htext => ?_) hstart)
    exact List.isPrefixOf_iff_prefix.mp (Bool.and_eq_true_iff.mp htext).1

/-- The function that is resolved is defined at the top of a document with a line. -/
theorem Definition.inside_of_at? {store : Store} {uri : Text} {position : Json}
    {location : Location} (h : at? store uri position = some location) :
    store.HasLines location.uri fun lines => location.range.Inside lines := by
  rw [at?] at h
  split at h
  · next htarget =>
      cases h
      rw [wordLeftOf?] at htarget
      split at htarget
      · next text cursor htext hcursor =>
          obtain ⟨word, hword, -⟩ := Option.map_eq_some_iff.mp htarget
          obtain ⟨⟨line, column⟩, hlocate, -⟩ := Option.map_eq_some_iff.mp hword
          obtain ⟨hline, -⟩ := locate?_eq_some hlocate
          have hfirst := List.getElem?_eq_getElem
            (Nat.lt_of_le_of_lt (Nat.zero_le _) (List.getElem?_eq_some_iff.mp hline).1)
          exact ⟨text, htext, Range.inside_onLine hfirst (Nat.le_refl 0) (Nat.zero_le _)⟩
      · cases htarget
  · cases h

theorem Diagnostic.inside_of_mem {text : Text} {diagnostic : Diagnostic}
    (h : diagnostic ∈ ofText text) : diagnostic.range.Inside (lines text) := by
  obtain ⟨number, line, hline, htodo⟩ :=
    (mem_zipIdx_filterMap_iff (f := fun line number =>
      if mentionsTodo line then some (todoAt number) else none)).mp h
  split at htodo
  · cases htodo
    exact Range.inside_onLine hline (Nat.le_refl 0) (Nat.zero_le _)
  · cases htodo

/-- The places of a symbol: it lies in the document, its name lies in it, and the name
is what stands there. -/
structure DocumentSymbol.Placed (symbol : DocumentSymbol) (lines : List Line) : Prop where
  range : symbol.range.Inside lines
  selection : symbol.selection.Inside lines
  within : symbol.selection.Within symbol.range
  name : symbol.selection.Covers lines symbol.name.toList

theorem DocumentSymbol.placed_of_ofLine? {lines : List Line} {line : Line} {number : Nat}
    {symbol : DocumentSymbol} (hline : lines[number]? = some line)
    (h : ofLine? line number = some symbol) : symbol.Placed lines := by
  obtain ⟨name, hname, rfl⟩ := Option.map_eq_some_iff.mp h
  obtain ⟨hlead, hprefix⟩ := Declaration.prefix_of_nameAfter? hname
  have hend := end_le_of_prefix_drop hlead hprefix
  refine ⟨Range.inside_onLine hline (Nat.zero_le _) (Nat.le_refl _),
    Range.inside_word hline hend, ⟨Or.inr ⟨rfl, Nat.zero_le _⟩, Or.inr ⟨rfl, hend⟩⟩, ?_⟩
  exact Range.covers_word hline hprefix

theorem DocumentSymbol.placed_of_mem {store : Store} {uri : Text} {symbol : DocumentSymbol}
    (h : symbol ∈ ofDocument store uri) : store.HasLines uri symbol.Placed := by
  rw [ofDocument] at h
  split at h
  · cases h
  · next text htext =>
      obtain ⟨number, line, hline, hsymbol⟩ := mem_zipIdx_filterMap_iff.mp h
      exact ⟨text, htext, placed_of_ofLine? hline hsymbol⟩

theorem WorkspaceSymbol.inside_of_mem_ofDocument {query : Line} {uri text : Text}
    {symbol : WorkspaceSymbol} (h : symbol ∈ ofDocument query uri text) :
    symbol.location.uri = uri ∧ symbol.location.range.Inside (lines text) := by
  rw [ofDocument] at h
  split at h
  · obtain ⟨number, line, hline, hmem⟩ := mem_zipIdx_flatMap_iff.mp h
    obtain ⟨entry, -, name, -, -, rfl⟩ := mem_ofLine_iff.mp hmem
    exact ⟨rfl, Range.inside_onLine hline (Nat.zero_le _) (Nat.le_refl _)⟩
  · cases h

theorem WorkspaceSymbol.inside_of_mem {store : Store} {query : Text} {symbol : WorkspaceSymbol}
    (h : symbol ∈ search store query) :
    store.HasLines symbol.location.uri fun lines => symbol.location.range.Inside lines := by
  rw [search] at h
  split at h
  · cases h
  · obtain ⟨⟨uri, text⟩, hentry, hmem⟩ := List.mem_flatMap.mp h
    obtain ⟨rfl, hinside⟩ := inside_of_mem_ofDocument hmem
    exact ⟨text, Store.get?_of_mem_entries hentry, hinside⟩

theorem CodeLens.mem_ofLines {lens : CodeLens} {previous : Option Line} {number : Nat}
    {lines : List Line} (h : lens ∈ ofLines previous number lines) :
    ∃ declared ∈ Declared.all number lines, ∃ above,
      ofLine? above declared.number declared.line = some lens := by
  induction lines generalizing previous number with
  | nil => cases h
  | cons line rest ih =>
      rcases List.mem_append.mp h with hhere | hlater
      · exact ⟨_, List.mem_cons_self, previous, Option.mem_toList.mp hhere⟩
      · obtain ⟨declared, hmem, hlens⟩ := ih hlater
        exact ⟨declared, List.mem_cons_of_mem _ hmem, hlens⟩

theorem CodeLens.inside_of_mem {text : Text} {lens : CodeLens} (h : lens ∈ ofText text) :
    lens.range.Inside (lines text) := by
  obtain ⟨declared, hmem, above, hlens⟩ := mem_ofLines h
  obtain ⟨name, hname, rfl⟩ := Option.map_eq_some_iff.mp hlens
  obtain ⟨hlead, hprefix⟩ := Declaration.prefix_of_nameAfter? hname
  exact Range.inside_word (Declared.from_of_mem_all hmem).line
    (end_le_of_prefix_drop hlead hprefix)

theorem Trimming.inside_of_mem {store : Store} {uri : Text} {edit : TextEdit}
    (h : edit ∈ edits store uri) : store.HasLines uri fun lines => edit.range.Inside lines := by
  rw [edits] at h
  split at h
  · cases h
  · next text htext =>
      obtain ⟨number, line, hline, hedit⟩ := mem_zipIdx_filterMap_iff.mp h
      rw [edit?] at hedit
      split at hedit
      · cases hedit
      · cases hedit
        exact ⟨text, htext, Range.inside_onLine hline (Nat.zero_le _) (Nat.le_refl _)⟩

theorem InlayHint.inside_of_ofLine? {lines : List Line} {line : Line} {number : Nat}
    {hint : InlayHint} (hline : lines[number]? = some line)
    (h : ofLine? line number = some hint) : hint.position.Inside lines := by
  rw [ofLine?] at h
  split at h
  · next hlead =>
      split at h
      · cases h
      · next name value hcut =>
          obtain ⟨label, -, rfl⟩ := Option.map_eq_some_iff.mp h
          obtain ⟨column, -, hparts⟩ := Option.map_eq_some_iff.mp hcut
          obtain ⟨rfl, -⟩ := Prod.mk.inj hparts
          have hlength := (List.isPrefixOf_iff_prefix.mp hlead).length_le
          have hname := List.length_take_le column (line.drop letLead.length)
          have hrest : (line.drop letLead.length).length = line.length - letLead.length :=
            List.length_drop
          refine ⟨line, hline, ?_⟩
          simp only [List.length_take] at hname ⊢
          omega
  · cases h

theorem InlayHint.inside_of_mem {store : Store} {uri : Text} {range : Json} {hint : InlayHint}
    (h : hint ∈ ofDocument store uri range) :
    store.HasLines uri fun lines => hint.position.Inside lines := by
  rw [ofDocument] at h
  split at h
  · next text bounds htext hbounds =>
      obtain ⟨number, line, hline, hhint⟩ :=
        (mem_zipIdx_filterMap_iff (f := fun line (number : Nat) =>
          if bounds.start.line ≤ number ∧ (number : Int) ≤ bounds.stop.line then
            ofLine? line number
          else none)).mp h
      split at hhint
      · exact ⟨text, htext, inside_of_ofLine? hline hhint⟩
      · cases hhint
  · cases h

/-! ## Selections -/

namespace Selection

theorem statementStart_le (line : Line) (column : Nat) : statementStart line column ≤ column := by
  have hlength := (List.takeWhile_prefix isBlank
    (l := slice line (runStart (· ≠ ';') line column) column)).length_le
  have hrun := runStart_le (· ≠ ';') line column
  rw [slice, List.length_drop, List.length_take] at hlength
  simp only [statementStart]
  rw [slice]
  omega

theorem le_statementStop (line : Line) (column : Nat) : column ≤ statementStop line column := by
  rw [statementStop]
  split
  · omega
  · exact Nat.le_max_right ..

theorem statementStop_le_length {line : Line} {column : Nat} (h : column ≤ line.length) :
    statementStop line column ≤ line.length := by
  rw [statementStop]
  split
  · next offset hoffset =>
      have hlt := (List.findIdx?_eq_some_iff_getElem.mp hoffset).1
      rw [List.length_drop] at hlt
      omega
  · exact Nat.max_le.mpr ⟨length_trimEnd_le line, h⟩

/-- The characters of a document stand where they are said to. -/
theorem mem_placed_iff {lines : List Line} {place : Position} {c : CodePoint} :
    (place, c) ∈ placed lines ↔
      ∃ found, lines[place.line]? = some found ∧ found[place.character]? = some c := by
  refine (mem_zipIdx_flatMap_iff (f := fun line number =>
    line.zipIdx.map fun entry => (Position.mk number entry.2, entry.1))).trans ?_
  constructor
  · rintro ⟨number, line, hline, hmem⟩
    obtain ⟨⟨c, column⟩, hc, heq⟩ := List.mem_map.mp hmem
    cases heq
    exact ⟨line, hline, List.mem_zipIdx_iff_getElem?.mp hc⟩
  · rintro ⟨line, hline, hc⟩
    exact ⟨place.line, line, hline,
      List.mem_map.mpr ⟨(c, place.character), List.mem_zipIdx_iff_getElem?.mpr hc, rfl⟩⟩

/-- A closing brace that is found is one of the characters. -/
theorem mem_of_closingBrace? {depth : Nat} {characters : List (Position × CodePoint)}
    {place : Position} (h : closingBrace? depth characters = some place) :
    (place, .char '\x7d') ∈ characters := by
  induction characters generalizing depth with
  | nil => cases h
  | cons entry rest ih =>
      obtain ⟨first, c⟩ := entry
      have hlater {depth' : Nat} (hrest : closingBrace? depth' rest = some place) :
          (place, .char '\x7d') ∈ (first, c) :: rest := List.mem_cons_of_mem _ (ih hrest)
      rw [closingBrace?_cons] at h
      split at h
      · exact hlater h
      · split at h
        · next hc =>
            split at h
            · cases h
              rw [hc]
              exact List.mem_cons_self
            · exact hlater h
        · exact hlater h

/-- A character with its place, where the two braces stand for each other. -/
def mirrored (entry : Position × CodePoint) : Position × CodePoint :=
  (entry.1,
    if entry.2 = '\x7b' then .char '\x7d' else if entry.2 = '\x7d' then .char '\x7b' else entry.2)

/-- Looking for an opening brace is looking for a closing one in the mirror. -/
theorem openingBrace?_eq_mirrored (depth : Nat) (characters : List (Position × CodePoint)) :
    openingBrace? depth characters = closingBrace? depth (characters.map mirrored) := by
  induction characters generalizing depth with
  | nil => rfl
  | cons entry rest ih =>
      obtain ⟨place, c⟩ := entry
      rw [List.map_cons, mirrored, openingBrace?_cons, closingBrace?_cons]
      by_cases hopening : c = '\x7b'
      · subst hopening
        cases depth with
        | zero => rfl
        | succ depth => exact ih depth
      · by_cases hclosing : c = '\x7d'
        · subst hclosing
          exact ih (depth + 1)
        · simp only [hopening, hclosing, if_false]
          exact ih depth

/-- An opening brace that is found is one of the characters. -/
theorem mem_of_openingBrace? {depth : Nat} {characters : List (Position × CodePoint)}
    {place : Position} (h : openingBrace? depth characters = some place) :
    (place, .char '\x7b') ∈ characters := by
  rw [openingBrace?_eq_mirrored] at h
  obtain ⟨⟨place, c⟩, hmem, hmirrored⟩ := List.mem_map.mp (mem_of_closingBrace? h)
  obtain ⟨rfl, hc⟩ := Prod.mk.inj hmirrored
  dsimp only at hc
  split at hc
  · next hopening => exact hopening ▸ hmem
  · split at hc
    · cases hc
    · next hclosing => exact absurd hc hclosing

/-- A block goes from an opening brace before the part of the line through a closing one
behind it. -/
theorem exists_braces_of_block? {characters : List (Position × CodePoint)} {number start stop : Nat}
    {range : Range} (h : block? characters number start stop = some range) :
    ∃ opening closing, range = ⟨opening, ⟨closing.line, closing.character + 1⟩⟩ ∧
      (opening, .char '\x7b') ∈ characters ∧ opening.before ⟨number, start⟩ = true ∧
        (closing, .char '\x7d') ∈ characters ∧ closing.before ⟨number, stop⟩ = false := by
  simp only [block?] at h
  split at h
  · next opening closing hopening hclosing =>
      cases h
      obtain ⟨hfront, hbefore⟩ :=
        List.mem_filter.mp (List.mem_reverse.mp (mem_of_openingBrace? hopening))
      obtain ⟨hback, hbehind⟩ := List.mem_filter.mp (mem_of_closingBrace? hclosing)
      exact ⟨opening, closing, rfl, hfront, hbefore, hback, Bool.not_eq_eq_eq_not.mp hbehind⟩
  · cases h

/-- The block around a part of a line lies in the document. -/
theorem inside_of_block? {lines : List Line} {number start stop : Nat} {range : Range}
    (hordered : start ≤ stop) (h : block? (placed lines) number start stop = some range) :
    range.Inside lines := by
  obtain ⟨opening, closing, rfl, hfront, hbefore, hback, hbehind⟩ := exists_braces_of_block? h
  obtain ⟨line, hline, hcharacter⟩ := mem_placed_iff.mp hfront
  obtain ⟨line', hline', hcharacter'⟩ := mem_placed_iff.mp hback
  have hlt := (List.getElem?_eq_some_iff.mp hcharacter).1
  have hlt' := (List.getElem?_eq_some_iff.mp hcharacter').1
  refine ⟨⟨line, hline, Nat.le_of_lt hlt⟩, ⟨line', hline', hlt'⟩, ?_⟩
  replace hbefore := Position.notAfter_of_before hbefore
  replace hbehind := Position.notAfter_of_not_before hbehind
  simp only [Position.NotAfter] at hbefore hbehind ⊢
  omega

/-- Merging equal neighbours leaves no part that was not there. -/
theorem mem_of_mem_merged {parts : List Range} {part : Range}
    (h : part ∈ parts.foldr (fun part outer =>
      if outer.head? = some part then outer else part :: outer) []) : part ∈ parts := by
  induction parts with
  | nil => exact h
  | cons first rest ih =>
      rw [List.foldr_cons] at h
      split at h
      · exact List.mem_cons_of_mem _ (ih h)
      · rcases List.mem_cons.mp h with rfl | hmem
        · exact List.mem_cons_self
        · exact List.mem_cons_of_mem _ (ih hmem)

theorem inside_of_mem_chain {lines : List Line} {number column : Nat} {line : Line} {part : Range}
    (hline : lines[number]? = some line) (hcolumn : column ≤ line.length)
    (h : part ∈ chain (placed lines) number line column) : part.Inside lines := by
  have hstart := runStart_le isNameChar line column
  have hstop := le_runStop isNameChar line column
  have hlength := runStop_le_length isNameChar hcolumn
  have hfirst := statementStart_le line (runStart isNameChar line column)
  have hlast := le_statementStop line (runStop isNameChar line column)
  have hordered : statementStart line (runStart isNameChar line column) ≤
      statementStop line (runStop isNameChar line column) := by omega
  rcases List.mem_append.mp (mem_of_mem_merged h) with hword | hrest
  · split at hword
    · next hlt =>
        rw [List.mem_singleton.mp hword]
        exact Range.inside_onLine hline (Nat.le_of_lt hlt) hlength
    · cases hword
  · rcases List.mem_cons.mp hrest with rfl | hblock
    · exact Range.inside_onLine hline hordered (statementStop_le_length hlength)
    · exact inside_of_block? hordered (Option.mem_toList.mp hblock)

theorem inside_of_mem {text : Text} {positions : List Json} {parts : List Range} {part : Range}
    (h : parts ∈ ofText text positions) (hpart : part ∈ parts) : part.Inside (lines text) := by
  obtain ⟨position, -, hposition⟩ := List.mem_filterMap.mp h
  obtain ⟨cursor, -, hchain⟩ := Option.bind_eq_some_iff.mp hposition
  obtain ⟨⟨line, column⟩, hlocate, rfl⟩ := Option.map_eq_some_iff.mp hchain
  obtain ⟨hline, hcolumn⟩ := locate?_eq_some hlocate
  exact inside_of_mem_chain hline hcolumn hpart

end Selection

theorem CallItem.placed_of_prepare? {store : Store} {uri : Text} {position : Json}
    {items : List CallItem} (h : prepare? store uri position = some items) {item : CallItem}
    (hitem : item ∈ items) : store.HasLines item.uri item.Placed := by
  rw [prepare?] at h
  split at h
  · split at h
    · cases h
    · split at h
      · cases h
      · cases h
        obtain ⟨⟨uri, text⟩, hentry, hmem⟩ := List.mem_flatMap.mp hitem
        obtain ⟨rfl, hplaced⟩ := placed_of_mem_inDocument hmem
        exact ⟨text, Store.get?_of_mem_entries hentry, hplaced⟩
  · cases h

theorem IncomingCall.placed_of_mem {store : Store} {name : Text} {call : IncomingCall}
    (h : call ∈ incoming store name) :
    store.HasLines call.caller.uri fun lines =>
      call.caller.Placed lines ∧ ∀ range ∈ call.ranges, range.Inside lines := by
  rw [incoming] at h
  split at h
  · cases h
  · obtain ⟨⟨uri, text⟩, hentry, hmem⟩ := List.mem_flatMap.mp h
    obtain ⟨rfl, hplaced⟩ := placed_of_mem_inDocument hmem
    exact ⟨text, Store.get?_of_mem_entries hentry, hplaced⟩

/-- What is asked of the places that are computed from open documents, one demand for
each kind of result: they lie inside the document that the result names, and the part
that stands for a name is contained in what it names and is that name. -/
structure Store.PlacesInside (store : Store) : Prop where
  diagnostics : ∀ text, ∀ diagnostic ∈ Diagnostic.ofText text,
    diagnostic.range.Inside (lines text)
  references : ∀ uri position, ∀ location ∈ Reference.references store uri position,
    store.HasLines location.uri fun lines => location.range.Inside lines
  highlights : ∀ uri position, ∀ range ∈ Reference.highlights store uri position,
    store.HasLines uri fun lines => range.Inside lines
  rename : ∀ uri position newName edit,
    Reference.rename? store uri position newName = some edit →
      ∃ ranges, edit = Reference.renameJson uri (.str newName) ranges ∧
        store.HasLines uri fun lines => ∀ range ∈ ranges, range.Inside lines
  definition : ∀ uri position location, Definition.at? store uri position = some location →
    store.HasLines location.uri fun lines => location.range.Inside lines
  documentSymbols : ∀ uri, ∀ symbol ∈ DocumentSymbol.ofDocument store uri,
    store.HasLines uri symbol.Placed
  workspaceSymbols : ∀ query, ∀ symbol ∈ WorkspaceSymbol.search store query,
    store.HasLines symbol.location.uri fun lines => symbol.location.range.Inside lines
  codeLenses : ∀ text, ∀ lens ∈ CodeLens.ofText text, lens.range.Inside (lines text)
  linkedRanges : ∀ text position linked, LinkedRanges.at? text position = some linked →
    ∀ range ∈ linked.ranges, range.Inside (lines text)
  selections : ∀ text positions, ∀ chain ∈ Selection.ofText text positions, ∀ part ∈ chain,
    part.Inside (lines text)
  functions : ∀ uri position items, CallItem.prepare? store uri position = some items →
    ∀ item ∈ items, store.HasLines item.uri item.Placed
  calls : ∀ name, ∀ call ∈ IncomingCall.incoming store name,
    store.HasLines call.caller.uri fun lines =>
      call.caller.Placed lines ∧ ∀ range ∈ call.ranges, range.Inside lines
  trimming : ∀ uri, ∀ edit ∈ Trimming.edits store uri,
    store.HasLines uri fun lines => edit.range.Inside lines
  hints : ∀ uri range, ∀ hint ∈ InlayHint.ofDocument store uri range,
    store.HasLines uri fun lines => hint.position.Inside lines
  folds : ∀ text, ∀ fold ∈ FoldingRange.ofText text,
    Range.Inside ⟨⟨fold.startLine, fold.startCharacter⟩, ⟨fold.endLine, fold.endCharacter⟩⟩
      (lines text)

/-- Every computed place lies inside, whatever the open documents are and wherever a
client points. -/
theorem Store.places_inside (store : Store) : store.PlacesInside where
  diagnostics _ _ := Diagnostic.inside_of_mem
  references uri position location hlocation := by
    obtain ⟨range, hrange, rfl⟩ := List.mem_map.mp hlocation
    exact Reference.inside_of_mem_highlights hrange
  highlights _ _ _ := Reference.inside_of_mem_highlights
  rename uri position newName edit hedit := by
    obtain ⟨ranges, hranges, rfl⟩ := Option.map_eq_some_iff.mp hedit
    exact ⟨ranges, rfl, Reference.inside_of_occurrences? hranges⟩
  definition _ _ _ := Definition.inside_of_at?
  documentSymbols _ _ := DocumentSymbol.placed_of_mem
  workspaceSymbols _ _ := WorkspaceSymbol.inside_of_mem
  codeLenses _ _ := CodeLens.inside_of_mem
  linkedRanges _ _ _ hlinked _ := LinkedRanges.inside_of_at? hlinked
  selections _ _ _ hchain _ := Selection.inside_of_mem hchain
  functions _ _ _ hitems _ := CallItem.placed_of_prepare? hitems
  calls _ _ := IncomingCall.placed_of_mem
  trimming _ _ := Trimming.inside_of_mem
  hints _ _ _ := InlayHint.inside_of_mem
  folds text fold hfold := by
    obtain ⟨hstart, hstop, hlt⟩ := FoldingRange.inside_of_mem hfold
    exact ⟨hstart, hstop, Or.inl hlt⟩

end LanguageServer
