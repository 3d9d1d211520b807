/-
# Questions, answered by numbers

The questions about documents, answered with lines and characters taken by their
numbers. No number is absent, whatever the documents and the parameters are, so the
answers are those of the questions (`ByNumber.answer_eq`).
-/

import LanguageServer.Proofs.ByNumber.Block
import LanguageServer.Proofs.ByNumber.Selection
import LanguageServer.Proofs.ByNumber.Token
import LanguageServer.Server.FeatureRequest

namespace LanguageServer

open Text

/-- The lenses of lines, where each line looks at the one before it. -/
theorem CodeLens.ofLines_eq {previous : Option Line} {all lines : List Line} {number : Nat}
    (h : all.drop number = lines)
    (hprevious : previous = if number = 0 then none else all[number - 1]?) :
    ofLines previous number lines = (lines.zipIdx number).flatMap fun entry =>
      (ofLine? (if entry.2 = 0 then none else all[entry.2 - 1]?) entry.2 entry.1).toList := by
  induction lines generalizing previous number with
  | nil => rfl
  | cons line rest ih =>
      have hline := getElem?_of_drop h
      rw [ofLines, List.zipIdx_cons, List.flatMap_cons, hprevious,
        ih (drop_succ_of_drop h) (by rw [if_neg (by omega), Nat.add_sub_cancel, hline])]

namespace ByNumber

/-- The word from a given number of columns left of a place on. -/
def wordLeftOf? (store : Store) (uri : Text) (position : Json) (columns : Int) :
    Reading (Option Line) :=
  match store.get? uri, Cursor.ofJson? position with
  | some text, some cursor => do
      let word ← wordFrom? (← lines text) ⟨cursor.line, cursor.character - columns⟩
      return word.map Word.text
  | _, _ => return none

theorem wordLeftOf?_eq_ok (store : Store) (uri : Text) (position : Json) (columns : Int) :
    wordLeftOf? store uri position columns =
      .ok (LanguageServer.wordLeftOf? store uri position columns) := by
  rw [wordLeftOf?, LanguageServer.wordLeftOf?]
  cases store.get? uri with
  | none => rfl
  | some text =>
      cases Cursor.ofJson? position with
      | none => rfl
      | some cursor =>
          simp only [lines_eq_ok, wordFrom?_eq_ok, ok_bind]
          rfl

/-- Suggestions for the word before a place. -/
def suggestions (store : Store) (uri : Text) (position : Json) :
    Reading (List Completion.Item) :=
  match store.get? uri, Cursor.ofJson? position with
  | some text, some cursor => do
      match ← wordUpTo? (← lines text) cursor with
      | some typed => return Completion.forStart (lower typed)
      | none => return []
  | _, _ => return []

theorem suggestions_eq_ok (store : Store) (uri : Text) (position : Json) :
    suggestions store uri position = .ok (Completion.suggestions store uri position) := by
  rw [suggestions, Completion.suggestions]
  cases store.get? uri with
  | none => rfl
  | some text =>
      cases Cursor.ofJson? position with
      | none => rfl
      | some cursor =>
          simp only [lines_eq_ok, wordUpTo?_eq_ok, ok_bind]
          cases Text.wordUpTo? (Text.lines text) cursor <;> rfl

/-- Suggestions for a document that is open, and none for another one. -/
def completion (store : Store) (uri : Text) (position : Option Json) : Reading Json := do
  if store.contains uri then
    match ← suggestions store uri (Json.orNull position) with
    | [] => return Wire.completionList (Completion.everywhere.map Completion.Item.toJson)
    | items => return Wire.completionList (items.map Completion.Item.toJson)
  else return Wire.completionList []

theorem completion_eq_ok (store : Store) (uri : Text) (position : Option Json) :
    completion store uri position =
      .ok (FeatureRequest.completionAnswer store uri position) := by
  rw [completion, FeatureRequest.completionAnswer]
  split
  · rw [suggestions_eq_ok, ok_bind, Completion.offer]
    cases Completion.suggestions store uri (Json.orNull position) <;> rfl
  · rfl

/-- The definition of the function at a place. -/
def definition? (store : Store) (uri : Text) (position : Json) : Reading (Option Location) := do
  let word ← wordLeftOf? store uri position 1
  return if word = some Definition.target then some ⟨uri, .onLine 0 0 0⟩ else none

theorem definition?_eq_ok (store : Store) (uri : Text) (position : Json) :
    definition? store uri position = .ok (Definition.at? store uri position) := by
  rw [definition?, wordLeftOf?_eq_ok, ok_bind, Definition.at?]
  rfl

/-- The occurrences of the variable at a place, if it is the one that is resolved. -/
def references? (store : Store) (uri : Text) (position : Json) : Reading (Option (List Range)) :=
  match store.get? uri with
  | some text => do
      let word ← wordLeftOf? store uri position 0
      if word = some Reference.target then
        return some (firstOccurrences Reference.target (← lines text))
      else return none
  | none => return none

theorem references?_eq_ok (store : Store) (uri : Text) (position : Json) :
    references? store uri position = .ok (Reference.occurrences? store uri position) := by
  rw [references?, Reference.occurrences?]
  cases store.get? uri with
  | none => rfl
  | some text =>
      simp only [wordLeftOf?_eq_ok, lines_eq_ok, ok_bind]
      split <;> rfl

/-! ## Declarations -/

/-- The function that a line declares at its very start. -/
def symbol? (text : Line) (number : Nat) : Reading (Option DocumentSymbol) := do
  let name ← nameAfter? Declaration.functionLead text
  return name.map fun name =>
    let column := Declaration.functionLead.length
    { name := Text.ofList name
      kind := .function
      range := .onLine number 0 text.length
      selection := .onLine number column (column + name.length) }

theorem symbol?_eq_ok (text : Line) (number : Nat) :
    symbol? text number = .ok (DocumentSymbol.ofLine? text number) := by
  rw [symbol?, nameAfter?_eq_ok, ok_bind, DocumentSymbol.ofLine?]
  rfl

/-- The functions of a document. -/
def documentSymbols (store : Store) (uri : Text) : Reading (List DocumentSymbol) :=
  match store.get? uri with
  | none => return []
  | some text => do
      gatherLines (fun found number => return (← symbol? found number).toList) (← lines text)

theorem documentSymbols_eq_ok (store : Store) (uri : Text) :
    documentSymbols store uri = .ok (DocumentSymbol.ofDocument store uri) := by
  rw [documentSymbols, DocumentSymbol.ofDocument]
  cases store.get? uri with
  | none => rfl
  | some text =>
      simp only [lines_eq_ok, ok_bind, List.filterMap_eq_flatMap_toList]
      refine gatherLines_eq_ok (g := fun found number =>
        (DocumentSymbol.ofLine? found number).toList) fun number found _ => ?_
      rw [symbol?_eq_ok]
      rfl

/-- The declarations of a line whose names contain a query in lower case. -/
def searchLine (query : Line) (uri : Text) (text : Line) (number : Nat) :
    Reading (List WorkspaceSymbol) :=
  gather (fun (searched : Line × Wire.SymbolKind) => do
    match ← name? searched.1 text with
    | none => return []
    | some name =>
        if contains query (lower name) then
          return [⟨Text.ofList name, searched.2, ⟨uri, .onLine number 0 text.length⟩⟩]
        else return []) WorkspaceSymbol.searched

theorem searchLine_eq_ok (query : Line) (uri : Text) (text : Line) (number : Nat) :
    searchLine query uri text number = .ok (WorkspaceSymbol.ofLine query uri text number) := by
  rw [searchLine, WorkspaceSymbol.ofLine, List.filterMap_eq_flatMap_toList]
  refine gather_eq_ok fun searched _ => ?_
  obtain ⟨lead, kind⟩ := searched
  simp only [name?_eq_ok, ok_bind]
  cases Declaration.name? lead text with
  | none => rfl
  | some name =>
      simp only
      split <;> rfl

/-- The declarations in all open documents whose names contain a query. -/
def search (store : Store) (query : Text) : Reading (List WorkspaceSymbol) := do
  if query.isEmpty then return []
  else
    gather (fun (document : Text × Text) => do
      if contains (lower query.toList) (lower document.2.toList) then
        gatherLines (searchLine (lower query.toList) document.1) (← lines document.2)
      else return []) store.entries

theorem search_eq_ok (store : Store) (query : Text) :
    search store query = .ok (WorkspaceSymbol.search store query) := by
  rw [search, WorkspaceSymbol.search]
  split
  · rfl
  · refine gather_eq_ok fun document _ => ?_
    obtain ⟨uri, text⟩ := document
    simp only [WorkspaceSymbol.ofDocument, lines_eq_ok, ok_bind]
    split
    · exact gatherLines_eq_ok fun number found _ => searchLine_eq_ok _ uri found number
    · rfl

/-- The command for a function that a line declares, where the line before it is taken by
its number. -/
def lensCommand (lines : List Line) (number : Nat) (name : Line) : Reading LensCommand := do
  let marked ←
    if 0 < number then CodeLens.testMark.isPrefixOf <$> itemAt lines ((number : Int) - 1)
    else pure false
  return if marked then .runTest (Text.ofList name)
    else if name = [.char 'm', .char 'a', .char 'i', .char 'n'] then .runMain
    else .showReferences (Text.ofList name)

theorem lensCommand_eq_ok {lines : List Line} {number : Nat} (h : number ≤ lines.length)
    (name : Line) :
    lensCommand lines number name =
      .ok (CodeLens.commandFor (if number = 0 then none else lines[number - 1]?) name) := by
  cases number with
  | zero => rfl
  | succ number =>
      obtain ⟨previous, hprevious⟩ : ∃ previous, lines[number]? = some previous :=
        ⟨_, List.getElem?_eq_getElem h⟩
      have hnumber : ((number + 1 : Nat) : Int) - 1 = number := by omega
      rw [lensCommand, if_pos (Nat.succ_pos number), hnumber, itemAt_eq_ok hprevious,
        if_neg (Nat.succ_ne_zero number), Nat.add_sub_cancel, hprevious]
      rfl

/-- The lens of a line. -/
def lens? (lines : List Line) (text : Line) (number : Nat) : Reading (Option CodeLens) := do
  match ← nameAfter? Declaration.functionLead text with
  | none => return none
  | some name =>
      let column := Declaration.functionLead.length
      return some ⟨.onLine number column (column + name.length), ← lensCommand lines number name⟩

theorem lens?_eq_ok {lines : List Line} {number : Nat} (h : number ≤ lines.length)
    (text : Line) :
    lens? lines text number =
      .ok (CodeLens.ofLine? (if number = 0 then none else lines[number - 1]?) number text) := by
  rw [lens?, nameAfter?_eq_ok, ok_bind, CodeLens.ofLine?]
  cases Declaration.nameAfter? Declaration.functionLead text with
  | none => rfl
  | some name =>
      simp only [lensCommand_eq_ok h, ok_bind]
      rfl

/-- The lenses of a text. -/
def codeLenses (text : Text) : Reading (List CodeLens) := do
  let all ← lines text
  gatherLines (fun found number => return (← lens? all found number).toList) all

theorem codeLenses_eq_ok (text : Text) : codeLenses text = .ok (CodeLens.ofText text) := by
  have hlenses := CodeLens.ofLines_eq (List.drop_zero (l := Text.lines text)) (Eq.refl none)
  rw [codeLenses, lines_eq_ok, ok_bind, CodeLens.ofText, hlenses]
  refine gatherLines_eq_ok (g := fun found number =>
    (CodeLens.ofLine? (if number = 0 then none else (Text.lines text)[number - 1]?) number
      found).toList) fun number found hfound => ?_
  rw [lens?_eq_ok (Nat.le_of_lt (List.getElem?_eq_some_iff.mp hfound).1)]
  rfl

/-- The edits that trim the lines of a document. -/
def trimming (store : Store) (uri : Text) : Reading (List TextEdit) :=
  match store.get? uri with
  | none => return []
  | some text => do
      return (← lines text).zipIdx.filterMap fun entry => Trimming.edit? entry.1 entry.2

theorem trimming_eq_ok (store : Store) (uri : Text) :
    trimming store uri = .ok (Trimming.edits store uri) := by
  rw [trimming, Trimming.edits]
  cases store.get? uri with
  | none => rfl
  | some text =>
      simp only [lines_eq_ok, ok_bind]
      rfl

/-- The hints for the lines of a document that a range covers. -/
def hints (store : Store) (uri : Text) (range : Json) : Reading (List InlayHint) :=
  match store.get? uri, Bounds.ofJson? range with
  | some text, some bounds => do
      return (← lines text).zipIdx.filterMap fun entry =>
        if bounds.start.line ≤ entry.2 ∧ (entry.2 : Int) ≤ bounds.stop.line then
          InlayHint.ofLine? entry.1 entry.2
        else none
  | _, _ => return []

theorem hints_eq_ok (store : Store) (uri : Text) (range : Json) :
    hints store uri range = .ok (InlayHint.ofDocument store uri range) := by
  rw [hints, InlayHint.ofDocument]
  cases store.get? uri with
  | none => rfl
  | some text =>
      cases Bounds.ofJson? range with
      | none => rfl
      | some bounds =>
          simp only [lines_eq_ok, ok_bind]
          rfl

/-- The help at a place. -/
def signatureHelp? (store : Store) (uri : Text) (position : Json) :
    Reading (Option SignatureHelp) :=
  match store.get? uri, Cursor.ofJson? position with
  | some text, some cursor => do
      match ← line? (← lines text) cursor.line with
      | none => return none
      | some found =>
          if cursor.character < 0 then return none
          else
            let call ← openCall? (found.take cursor.character.toNat)
            return call.bind SignatureHelp.ofCall?
  | _, _ => return none

theorem signatureHelp?_eq_ok (store : Store) (uri : Text) (position : Json) :
    signatureHelp? store uri position = .ok (SignatureHelp.at? store uri position) := by
  rw [signatureHelp?, SignatureHelp.at?]
  cases store.get? uri with
  | none => rfl
  | some text =>
      cases Cursor.ofJson? position with
      | none => rfl
      | some cursor =>
          simp only [lines_eq_ok, line?_eq_ok, ok_bind]
          by_cases hline : cursor.line < 0
          · simp only [hline, true_or, if_true]
            rfl
          · simp only [hline, false_or, if_false]
            cases (Text.lines text)[cursor.line.toNat]? with
            | none =>
                simp only [Option.bind_none, ite_self]
                rfl
            | some found =>
                simp only [openCall?_eq_ok, ok_bind, Option.bind_some]
                split <;> rfl

/-- Whether a word that stands at a column is no part of a longer word. -/
def isWhole (word text : Line) (start : Nat) : Reading Bool := do
  let opens ← opensWord text start
  let closes ← closesWord text (start + word.length)
  return opens && closes

/-- The whole-word occurrences of a word on a line. -/
def linkedOnLine (word text : Line) (number : Nat) : Reading (List Range) := do
  let starts ← keep (isWhole word text) (occurrences word text)
  return starts.map fun start => Range.onLine number start (start + word.length)

theorem linkedOnLine_eq_ok (word text : Line) (number : Nat) :
    linkedOnLine word text number = .ok (LinkedRanges.onLine word text number) := by
  have hstarts : keep (isWhole word text) (occurrences word text) =
      .ok (wordStarts (LinkedRanges.startsWith word) none 0 text) := by
    refine keep_eq_wordStarts fun start hstart =>
      ⟨!(text.drop (start + word.length)).head?.any isWordChar, ?_, ?_⟩
    · rw [isWhole, opensWord_eq_ok hstart, ok_bind, closesWord_eq_ok]
      rfl
    · rw [LinkedRanges.startsWith, List.drop_drop]
  rw [linkedOnLine, hstarts, ok_bind, LinkedRanges.onLine]
  rfl

/-- The whole-word occurrences of the identifier at a place. -/
def linkedRanges? (text : Text) (position : Json) : Reading (Option LinkedRanges) :=
  match Cursor.ofJson? position with
  | none => return none
  | some cursor => do
      let all ← lines text
      match ← identifierAt? all cursor with
      | none => return none
      | some word =>
          let ranges ← gatherLines (linkedOnLine word) all
          return some ⟨ranges, Text.ofList word⟩

theorem linkedRanges?_eq_ok (text : Text) (position : Json) :
    linkedRanges? text position = .ok (LinkedRanges.at? text position) := by
  rw [linkedRanges?, LinkedRanges.at?]
  cases Cursor.ofJson? position with
  | none => rfl
  | some cursor =>
      simp only [lines_eq_ok, identifierAt?_eq_ok, ok_bind]
      cases Text.identifierAt? (Text.lines text) cursor with
      | none => rfl
      | some word =>
          have hranges := gatherLines_eq_ok fun number (found : Line)
              (_ : (Text.lines text)[number]? = some found) => linkedOnLine_eq_ok word found number
          simp only [hranges, ok_bind]
          rfl

/-- The tokens of a text as an object. -/
def tokens (text : Text) : Reading Json := do
  let found ← lexLines 0 [] (← lines text)
  return .obj [("data", .arr ((SemanticToken.encode found).map .int))]

theorem tokens_eq_ok (text : Text) : tokens text = .ok (SemanticToken.answer text) := by
  rw [tokens, lines_eq_ok, ok_bind, lexLines_eq_ok]
  rfl

/-- The declarations of a function in all documents. -/
def declarations (store : Store) (name : Line) : Reading (List CallItem) :=
  gather (fun (document : Text × Text) => declarationsIn name document.1 document.2)
    store.entries

theorem declarations_eq_ok (store : Store) (name : Line) :
    declarations store name = .ok (store.entries.flatMap fun document =>
      CallItem.inDocument name document.1 document.2) :=
  gather_eq_ok fun document _ => declarationsIn_eq_ok name document.1 document.2

/-- The declarations of the function at a place. -/
def prepare? (store : Store) (uri : Text) (position : Json) : Reading (Option (List CallItem)) :=
  match store.get? uri, Cursor.ofJson? position with
  | some text, some cursor => do
      match ← identifierAt? (← lines text) cursor with
      | none => return none
      | some name =>
          match ← declarations store name with
          | [] => return none
          | items => return some items
  | _, _ => return none

theorem prepare?_eq_ok (store : Store) (uri : Text) (position : Json) :
    prepare? store uri position = .ok (CallItem.prepare? store uri position) := by
  rw [prepare?, CallItem.prepare?]
  cases store.get? uri with
  | none => rfl
  | some text =>
      cases Cursor.ofJson? position with
      | none => rfl
      | some cursor =>
          simp only [lines_eq_ok, identifierAt?_eq_ok, ok_bind]
          cases Text.identifierAt? (Text.lines text) cursor with
          | none => rfl
          | some name =>
              simp only [declarations_eq_ok, ok_bind]
              cases store.entries.flatMap fun document =>
                CallItem.inDocument name document.1 document.2 <;> rfl

/-- The callers of a function in all documents. -/
def incoming (store : Store) (name : Text) : Reading (List IncomingCall) := do
  if name.isEmpty then return []
  else
    gather (fun (document : Text × Text) => incomingIn name.toList document.1 document.2)
      store.entries

theorem incoming_eq_ok (store : Store) (name : Text) :
    incoming store name = .ok (IncomingCall.incoming store name) := by
  rw [incoming, IncomingCall.incoming]
  split
  · rfl
  · exact gather_eq_ok fun document _ => incomingIn_eq_ok name.toList document.1 document.2

/-! ## Answers -/

open FeatureRequest in
/-- The answer to a question, read by numbers. Parameters are required as ever. -/
def answer (store : Store) (params : Json) : FeatureRequest → Except Required (Reading Json)
  | .completion => do
      let uri ← requireUri params
      return completion store uri (params.object? "position")
  | .hover => do
      let (uri, position) ← requirePlace params
      return do
        let word ← wordLeftOf? store uri position 1
        return optionJson Hover.toJson (word.bind Hover.explanation?)
  | .definition => do
      let (uri, position) ← requirePlace params
      return optionJson Location.toJson <$> definition? store uri position
  | .references => do
      let (uri, position) ← requirePlace params
      return do
        let ranges ← references? store uri position
        return listJson Location.toJson ((ranges.getD []).map (⟨uri, ·⟩))
  | .documentHighlight => do
      let (uri, position) ← requirePlace params
      return do
        let ranges ← references? store uri position
        return listJson Reference.highlightJson (ranges.getD [])
  | .rename => do
      let (uri, position) ← requirePlace params
      let newName ← require .newName (nonemptyString? params "newName")
      return do
        let ranges ← references? store uri position
        return Json.orNull (ranges.map (Reference.renameJson uri (.str newName)))
  | .documentSymbol => do
      let uri ← requireUri params
      return listJson DocumentSymbol.toJson <$> documentSymbols store uri
  | .workspaceSymbol =>
      .ok (listJson WorkspaceSymbol.toJson <$> search store ((params.string? "query").getD ""))
  | .codeAction => do
      let (uri, range) ← requirePart params
      let diagnostics := (params.object? "context").bind fun context => context.array? "diagnostics"
      return .ok (.arr (CodeAction.fixes uri range (diagnostics.getD [])))
  | .codeLens => do
      let uri ← requireUri params
      return listJson CodeLens.toJson <$> codeLenses (textOf store uri)
  | .formatting => do
      let uri ← requireUri params
      return listJson TextEdit.toJson <$> trimming store uri
  | .foldingRange => do
      let uri ← requireUri params
      return do
        let all ← lines (textOf store uri)
        listJson FoldingRange.toJson <$> folds all
  | .inlayHint => do
      let (uri, range) ← requirePart params
      return listJson InlayHint.toJson <$> hints store uri range
  | .signatureHelp => do
      let (uri, position) ← requirePlace params
      return optionJson SignatureHelp.toJson <$> signatureHelp? store uri position
  | .linkedEditingRange => do
      let (uri, position) ← requirePlace params
      return optionJson LinkedRanges.toJson <$> linkedRanges? (textOf store uri) position
  | .semanticTokens => do
      let uri ← requireUri params
      return tokens (textOf store uri)
  | .selectionRange => do
      let uri ← requireUri params
      let positions ← require .positions (params.array? "positions")
      return listJson Selection.toJson <$> selections (textOf store uri) positions
  | .prepareCallHierarchy => do
      let (uri, position) ← requirePlace params
      return optionJson (listJson CallItem.toJson) <$> prepare? store uri position
  | .incomingCalls => do
      let item ← require .item (params.object? "item")
      let name ← require .itemName (nonemptyString? item "name")
      return listJson IncomingCall.toJson <$> incoming store name

/-- What is required first is required alike, so only what is read after it matters. -/
theorem bind_eq_map_ok {α : Type} {first : Except FeatureRequest.Required α}
    {read : α → Except FeatureRequest.Required (Reading Json)}
    {result : α → Except FeatureRequest.Required Json}
    (h : ∀ a, read a = (result a).map .ok) : (first >>= read) = (first >>= result).map .ok := by
  cases first with
  | error missing => rfl
  | ok a => exact h a

/-- Every question is answered by numbers as it is by lists: no number is absent. -/
theorem answer_eq (store : Store) (params : Json) (request : FeatureRequest) :
    answer store params request = (request.answer store params).map .ok := by
  cases request with
  | completion =>
      exact bind_eq_map_ok fun uri => congrArg Except.ok (completion_eq_ok store uri _)
  | hover =>
      refine bind_eq_map_ok fun place => ?_
      simp only [wordLeftOf?_eq_ok]
      rfl
  | definition =>
      refine bind_eq_map_ok fun place => ?_
      simp only [definition?_eq_ok]
      rfl
  | references | documentHighlight =>
      refine bind_eq_map_ok fun place => ?_
      simp only [references?_eq_ok]
      rfl
  | rename =>
      refine bind_eq_map_ok fun place => bind_eq_map_ok fun newName => ?_
      rw [references?_eq_ok]
      rfl
  | documentSymbol =>
      refine bind_eq_map_ok fun uri => ?_
      rw [documentSymbols_eq_ok]
      rfl
  | workspaceSymbol =>
      rw [answer, search_eq_ok]
      rfl
  | codeAction => exact bind_eq_map_ok fun part => rfl
  | codeLens =>
      refine bind_eq_map_ok fun uri => ?_
      rw [codeLenses_eq_ok]
      rfl
  | formatting =>
      refine bind_eq_map_ok fun uri => ?_
      rw [trimming_eq_ok]
      rfl
  | foldingRange =>
      refine bind_eq_map_ok fun uri => ?_
      rw [lines_eq_ok, ok_bind, folds_eq_ok]
      rfl
  | inlayHint =>
      refine bind_eq_map_ok fun part => ?_
      simp only [hints_eq_ok]
      rfl
  | signatureHelp =>
      refine bind_eq_map_ok fun place => ?_
      simp only [signatureHelp?_eq_ok]
      rfl
  | linkedEditingRange =>
      refine bind_eq_map_ok fun place => ?_
      simp only [linkedRanges?_eq_ok]
      rfl
  | semanticTokens =>
      exact bind_eq_map_ok fun uri => congrArg Except.ok (tokens_eq_ok _)
  | selectionRange =>
      refine bind_eq_map_ok fun uri => bind_eq_map_ok fun positions => ?_
      rw [selections_eq_ok]
      rfl
  | prepareCallHierarchy =>
      refine bind_eq_map_ok fun place => ?_
      simp only [prepare?_eq_ok]
      rfl
  | incomingCalls =>
      refine bind_eq_map_ok fun item => bind_eq_map_ok fun name => ?_
      rw [incoming_eq_ok]
      rfl

end ByNumber

end LanguageServer
