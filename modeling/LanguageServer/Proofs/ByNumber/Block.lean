/-
# Blocks, functions and calls, read by numbers

The line that closes a block, the function around a line and the calls on a line, where
each line is taken by its number. The closing line is looked for going on and the
function going back.
-/

import LanguageServer.Proofs.BlockPlace
import LanguageServer.Proofs.ByNumber.Word

namespace LanguageServer

open Text

namespace Declared

/-- The lines of a document with what comes after them, by their numbers. -/
theorem all_eq_map (number : Nat) (lines : List Line) :
    all number lines = (lines.zipIdx number).map fun entry =>
      ⟨entry.2, entry.1, lines.drop (entry.2 + 1 - number)⟩ := by
  induction lines generalizing number with
  | nil => rfl
  | cons line rest ih =>
      have hrest : all (number + 1) rest = (rest.zipIdx (number + 1)).map fun entry =>
          ⟨entry.2, entry.1, (line :: rest).drop (entry.2 + 1 - number)⟩ := by
        rw [ih]
        refine List.map_congr_left fun entry hentry => ?_
        have hle := (List.mem_zipIdx hentry).1
        rw [show entry.2 + 1 - number = entry.2 + 1 - (number + 1) + 1 by omega,
          List.drop_succ_cons]
      rw [all, List.zipIdx_cons, List.map_cons, hrest, Nat.add_sub_cancel_left,
        List.drop_succ_cons, List.drop_zero]

/-- The nearest declaration on the first lines of a document. -/
def nearestIn (lines : List Line) (count : Nat) : Option Declared :=
  ((all 0 lines).take count).foldl nearest none

theorem nearestIn_succ {lines : List Line} {number : Nat} {declared : Declared}
    (h : declared.From lines) (hnumber : declared.number = number) :
    nearestIn lines (number + 1) = nearest (nearestIn lines number) declared := by
  have hdeclared : (all 0 lines)[number]? = some declared := by
    rw [all_eq_map, List.getElem?_map, List.getElem?_zipIdx, ← hnumber, h.line, Option.map_some,
      Option.map_some, Nat.zero_add, Nat.sub_zero, drop_succ_of_drop h]
  rw [nearestIn, List.take_add_one, hdeclared, List.foldl_append]
  rfl

end Declared

/-- The calls of a document are those on its lines, each with the nearest declaration up
to its line. -/
theorem CallSite.inLines_eq {name : Line} {lines rest : List Line} {number : Nat}
    (h : lines.drop number = rest) :
    inLines name (Declared.nearestIn lines number) number rest =
      (rest.zipIdx number).flatMap fun entry =>
        onLine name (Declared.nearestIn lines (entry.2 + 1)) entry.1 entry.2 := by
  induction rest generalizing number with
  | nil => rfl
  | cons line rest ih =>
      have hfrom : Declared.From ⟨number, line, rest⟩ lines := h
      rw [inLines, List.zipIdx_cons, List.flatMap_cons, ← Declared.nearestIn_succ hfrom rfl,
        ih (drop_succ_of_drop h)]

theorem FoldingRange.ofLines_eq (number : Nat) (lines : List Line) :
    ofLines number lines = (Declared.all number lines).flatMap fun declared =>
      (ofLine? declared.number declared.line declared.rest).toList := by
  induction lines generalizing number with
  | nil => rfl
  | cons line rest ih => rw [ofLines, Declared.all, List.flatMap_cons, ih]

namespace ByNumber

/-- The number of the line that brings the depth to zero, going on from a number over a
number of lines at most. -/
def closingFrom (lines : List Line) : Nat → Int → Nat → Reading (Option Nat)
  | 0, _, _ => return none
  | left + 1, depth, number => do
      let text ← itemAt lines number
      if Block.opens text then closingFrom lines left (depth + 1) (number + 1)
      else if text.contains '\x7d' then
        if depth - 1 = 0 then return some number
        else closingFrom lines left (depth - 1) (number + 1)
      else closingFrom lines left depth (number + 1)

/-- The line that closes the block opened on a line. -/
def closing? (lines : List Line) (start : Nat) : Reading (Option Nat) :=
  closingFrom lines (lines.length - start) 0 start

theorem closingFrom_eq_ok {lines rest : List Line} {number : Nat}
    (h : lines.drop number = rest) (depth : Int) :
    closingFrom lines rest.length depth number = .ok (Block.closingFrom depth number rest) := by
  induction rest generalizing number depth with
  | nil => rfl
  | cons text rest ih =>
      have hnext := drop_succ_of_drop h
      rw [List.length_cons, closingFrom, itemAt_eq_ok (getElem?_of_drop h), ok_bind,
        Block.closingFrom]
      simp only [ih hnext]
      split
      · rfl
      · split
        · split <;> rfl
        · rfl

theorem closing?_eq_ok {lines rest : List Line} {start : Nat} (h : lines.drop start = rest) :
    closing? lines start = .ok (Block.closingFrom 0 start rest) := by
  rw [closing?, ← List.length_drop, h, closingFrom_eq_ok h]

/-- The block that a line opens, if it can be folded. -/
def fold? (lines : List Line) (text : Line) (number : Nat) : Reading (Option FoldingRange) := do
  if Block.opens text then
    match ← closing? lines number with
    | none => return none
    | some last =>
        if last = number then return none
        else
          let lastLine ← itemAt lines last
          return some ⟨number, FoldingRange.openingColumn text, last,
            FoldingRange.closingColumn lastLine⟩
  else return none

theorem fold?_eq_ok {lines rest : List Line} {text : Line} {number : Nat}
    (h : lines.drop number = text :: rest) :
    fold? lines text number = .ok (FoldingRange.ofLine? number text rest) := by
  rw [fold?, FoldingRange.ofLine?, closing?_eq_ok h]
  split
  · cases hclosing : Block.closingFrom 0 number (text :: rest) with
    | none => rfl
    | some last =>
        obtain ⟨hle, lastLine, hlast, -⟩ := Block.closes_of_closingFrom hclosing
        have hget : lines[last]? = some lastLine := by
          rw [← hlast, ← h, List.getElem?_drop]
          congr 1
          omega
        simp only [ok_bind, itemAt_eq_ok hget, List.getD_eq_getElem?_getD, hlast,
          Option.getD_some]
        split <;> rfl
  · rfl

/-- What is read on each line of a document is said of the line and what comes after
it. -/
theorem gatherLines_eq_all {β : Type} {read : Line → Nat → Reading (List β)} {lines : List Line}
    {result : Declared → List β}
    (h : ∀ declared, declared.From lines → read declared.line declared.number =
      .ok (result declared)) :
    gatherLines read lines = .ok ((Declared.all 0 lines).flatMap result) := by
  rw [Declared.all_eq_map, List.flatMap_map]
  exact gather_eq_ok fun entry hentry =>
    h ⟨entry.2, entry.1, lines.drop (entry.2 + 1)⟩
      (drop_of_getElem? (List.mem_zipIdx_iff_getElem?.mp hentry))

/-- The foldable blocks of a document. -/
def folds (lines : List Line) : Reading (List FoldingRange) :=
  gatherLines (fun text number => return (← fold? lines text number).toList) lines

theorem folds_eq_ok (lines : List Line) : folds lines = .ok (FoldingRange.ofLines 0 lines) := by
  rw [folds, FoldingRange.ofLines_eq]
  refine gatherLines_eq_all fun declared hfrom => ?_
  rw [fold?_eq_ok hfrom]
  rfl

/-- The function that the line of a number declares, with its places. -/
def callItem (uri : Text) (lines : List Line) (number : Nat) : Reading CallItem := do
  let text ← itemAt lines number
  let name := (← function? text).getD []
  let column := Declaration.functionColumn text
  let closing ← closing? lines number
  let last : Int := (closing.map Int.ofNat).getD (lines.length - 1)
  let lastLine ← itemAt lines last
  return {
    name := Text.ofList name
    uri := uri
    range := ⟨⟨number, 0⟩, ⟨last.toNat, lastLine.length⟩⟩
    selection := .onLine number column (column + name.length) }

theorem callItem_eq_ok {declared : Declared} {lines : List Line} (h : declared.From lines)
    (uri : Text) :
    callItem uri lines declared.number = .ok (CallItem.ofDeclared uri declared) := by
  obtain ⟨-, lastLine, hlastLine, hlength⟩ := h.stop
  have hcount : lines.length = declared.number + (declared.rest.length + 1) := by
    have hdrop := congrArg List.length h
    have hlt := (List.getElem?_eq_some_iff.mp h.line).1
    rw [List.length_drop, List.length_cons] at hdrop
    omega
  have hlast : ((declared.closing?.map Int.ofNat).getD (lines.length - 1) : Int) =
      declared.stop.line := by
    rw [Declared.stop]
    cases declared.closing? with
    | none =>
        simp only [Option.map_none, Option.getD_none]
        omega
    | some last => rfl
  rw [callItem, itemAt_eq_ok h.line, ok_bind, function?_eq_ok, ok_bind, closing?_eq_ok h, ok_bind]
  simp only
  rw [show Block.closingFrom 0 declared.number (declared.line :: declared.rest) =
    declared.closing? from rfl, hlast, itemAt_eq_ok hlastLine, ok_bind, Int.toNat_natCast,
    ← hlength]
  rfl

/-- The function around a line: going back from a number, the first line that declares
one, if its block reaches as far. -/
def enclosing? (lines : List Line) (number : Nat) : Nat → Reading (Option Declared)
  | 0 => return none
  | candidate + 1 => do
      let text ← itemAt lines candidate
      if (← function? text).isNone then enclosing? lines number candidate
      else
        let closing ← closing? lines candidate
        if closing.all fun last => decide (number ≤ last) then
          return some ⟨candidate, text, lines.drop (candidate + 1)⟩
        else return none

theorem enclosing?_eq_ok {lines : List Line} {candidate : Nat} (h : candidate ≤ lines.length)
    (number : Nat) :
    enclosing? lines number candidate =
      .ok (CallSite.enclosing? (Declared.nearestIn lines candidate) number) := by
  induction candidate with
  | zero => rfl
  | succ candidate ih =>
      obtain ⟨text, htext⟩ : ∃ text, lines[candidate]? = some text :=
        ⟨_, List.getElem?_eq_getElem h⟩
      have hdrop := drop_of_getElem? htext
      have hfrom : Declared.From ⟨candidate, text, lines.drop (candidate + 1)⟩ lines := hdrop
      rw [enclosing?, itemAt_eq_ok htext, ok_bind, function?_eq_ok, ok_bind,
        Declared.nearestIn_succ hfrom rfl, Declared.nearest]
      cases Declaration.function? text with
      | none => exact ih (Nat.le_of_succ_le h)
      | some name =>
          rw [closing?_eq_ok hdrop]
          simp only [Option.isNone_some, Option.isSome_some, if_true, ok_bind,
            CallSite.enclosing?, Option.filter_some, Declared.reaches, Declared.closing?,
            Bool.false_eq_true, if_false]
          cases Block.closingFrom 0 candidate (text :: lines.drop (candidate + 1)) with
          | none => rfl
          | some last =>
              simp only [Option.all_some]
              split <;> rfl

/-- The columns of a line where a function is called. -/
def callColumns (name text : Line) : Reading (List Nat) := do
  let declared ← function? text
  let found ← keep (opensWord text) (occurrences (name ++ [.char '(']) text)
  return if declared = some name then
    found.filter fun column => column ≠ Declaration.functionColumn text
  else found

/-- The columns where a text is accepted that starts with a word, of those where the
word stands. -/
theorem keep_eq_wordStarts {word text : Line} {test : Nat → Reading Bool} {accepts : Line → Bool}
    (h : ∀ start, start < text.length → ∃ fits, test start =
        .ok (!(characterBefore none text start).any isWordChar && fits) ∧
      accepts (text.drop start) = (word.isPrefixOf (text.drop start) && fits)) :
    keep test (occurrences word text) = .ok (wordStarts accepts none 0 text) := by
  have htest : ∀ start ∈ occurrences word text, test start =
      .ok (!(characterBefore none text start).any isWordChar && accepts (text.drop start)) := by
    intro start hstart
    obtain ⟨hlt, hword⟩ := List.mem_filter.mp hstart
    obtain ⟨fits, hread, haccepts⟩ := h start (List.mem_range.mp hlt)
    rw [hread, haccepts, hword, Bool.true_and]
  rw [keep_eq_ok htest, wordStarts_eq, occurrences, List.filter_filter]
  simp only [Nat.zero_add, List.map_id']
  refine congrArg Except.ok (List.filter_congr fun start hstart => ?_)
  obtain ⟨fits, -, haccepts⟩ := h start (List.mem_range.mp hstart)
  rw [haccepts]
  cases word.isPrefixOf (text.drop start) <;> simp

theorem callColumns_eq_ok (name text : Line) :
    callColumns name text = .ok (CallSite.columns name text) := by
  have hfound : keep (opensWord text) (occurrences (name ++ [.char '(']) text) =
      .ok (wordStarts (CallSite.startsWith name) none 0 text) := by
    refine keep_eq_wordStarts fun start hstart => ⟨true, ?_, ?_⟩
    · rw [Bool.and_true, opensWord_eq_ok hstart]
    · rw [Bool.and_true, CallSite.startsWith]
  rw [callColumns, function?_eq_ok, ok_bind, hfound, ok_bind, CallSite.columns]
  rfl

/-- The calls on a line. -/
def callSites (lines : List Line) (name text : Line) (number : Nat) : Reading (List CallSite) := do
  match ← callColumns name text with
  | [] => return []
  | found =>
      match ← enclosing? lines number (number + 1) with
      | none => return []
      | some caller =>
          return found.map fun column => ⟨caller, .onLine number column (column + name.length)⟩

theorem callSites_eq_ok {lines : List Line} {name text : Line} {number : Nat}
    (h : lines[number]? = some text) :
    callSites lines name text number =
      .ok (CallSite.onLine name (Declared.nearestIn lines (number + 1)) text number) := by
  have hle := (List.getElem?_eq_some_iff.mp h).1
  rw [callSites, callColumns_eq_ok, ok_bind, CallSite.onLine, enclosing?_eq_ok hle]
  cases CallSite.columns name text with
  | nil => rfl
  | cons column more =>
      simp only [ok_bind]
      cases CallSite.enclosing? (Declared.nearestIn lines (number + 1)) number <;> rfl

/-- The callers of a function in one document. -/
def incomingIn (name : Line) (uri text : Text) : Reading (List IncomingCall) := do
  let all ← lines text
  let sites ← gatherLines (callSites all name) all
  gather (fun group => do
    match group with
    | [] => return []
    | site :: rest =>
        return [⟨← callItem uri all site.caller.number, (site :: rest).map CallSite.range⟩])
    (sites.splitBy fun a b => a.caller.number = b.caller.number)

theorem incomingIn_eq_ok (name : Line) (uri text : Text) :
    incomingIn name uri text = .ok (IncomingCall.inDocument name uri text) := by
  have hsites : gatherLines (callSites (Text.lines text) name) (Text.lines text) =
      .ok (CallSite.inLines name none 0 (Text.lines text)) := by
    rw [gatherLines_eq_ok fun number found hfound => callSites_eq_ok hfound]
    exact congrArg Except.ok (CallSite.inLines_eq List.drop_zero).symm
  rw [incomingIn, lines_eq_ok, ok_bind, hsites, ok_bind, IncomingCall.inDocument,
    List.filterMap_eq_flatMap_toList]
  refine gather_eq_ok fun group hgroup => ?_
  cases group with
  | nil => rfl
  | cons site rest =>
      have hmem := List.mem_flatten_of_mem hgroup List.mem_cons_self
      rw [List.flatten_splitBy] at hmem
      have hplaced := CallSite.placed_of_mem_inLines (fun _ hnone => by cases hnone)
        List.drop_zero hmem
      simp only [callItem_eq_ok hplaced.caller, ok_bind]
      rfl

/-- The declarations of a function in one document. -/
def declarationsIn (name : Line) (uri text : Text) : Reading (List CallItem) := do
  let all ← lines text
  gatherLines (fun found number => do
    if (← function? found) = some name then return [← callItem uri all number] else return []) all

theorem declarationsIn_eq_ok (name : Line) (uri text : Text) :
    declarationsIn name uri text = .ok (CallItem.inDocument name uri text) := by
  rw [declarationsIn, lines_eq_ok, ok_bind, CallItem.inDocument,
    List.filterMap_eq_flatMap_toList]
  refine gatherLines_eq_all fun declared hfrom => ?_
  rw [function?_eq_ok, ok_bind]
  split
  · rw [callItem_eq_ok hfrom]
    rfl
  · rfl

end ByNumber

end LanguageServer
