/-
# Every call is reported once

A call is reported with the function that its line is counted to. The calls of a document come
in order, and the function a line is counted to never lies before that of an earlier line, so
cutting the list of calls where the function changes puts all calls of a function into one
entry. Together the entries for all documents list every call once, and nothing else
(`IncomingCall.incoming_lists_calls_once`). Which calls are left out though a function is around
them is said by `IncomingCall.innermost_function_missed_exactly`.
-/

import LanguageServer.Proofs.EnclosingFunction
import Mathlib.Data.List.Flatten
import Mathlib.Data.List.Nodup
import Mathlib.Data.List.Pairwise

namespace LanguageServer

open Text

section Runs

variable {α : Type} {key : α → Nat}

/-- Of runs of one key each, which ascend and differ from one to the next, the keys ascend
strictly. -/
theorem pairwise_lt_of_runs {runs : List (List α)}
    (hconstant : ∀ run ∈ runs, ∀ a ∈ run, ∀ b ∈ run, key a = key b)
    (hascend : runs.flatten.Pairwise fun a b => key a ≤ key b)
    (hchange : runs.IsChain fun run next => ∃ a ∈ run, ∃ b ∈ next, key a ≠ key b) :
    runs.Pairwise fun run later => ∀ a ∈ run, ∀ b ∈ later, key a < key b := by
  induction runs with
  | nil => exact List.Pairwise.nil
  | cons run rest ih =>
      rw [List.flatten_cons, List.pairwise_append] at hascend
      have hrest := ih (fun other hother => hconstant other (List.mem_cons_of_mem _ hother))
        hascend.2.1 hchange.tail
      refine List.pairwise_cons.mpr ⟨fun later hlater a ha b hb => ?_, hrest⟩
      -- The key steps up to the next run, and from there it does not come down again.
      cases rest with
      | nil => cases hlater
      | cons next more =>
          obtain ⟨last, hlast, first, hfirst, hne⟩ := (List.isChain_cons_cons.mp hchange).1
          have hnext : first ∈ (next :: more).flatten :=
            List.mem_flatten_of_mem List.mem_cons_self hfirst
          have hstep : key last < key first :=
            Nat.lt_of_le_of_ne (hascend.2.2 last hlast first hnext) hne
          have hlater : key first ≤ key b := by
            rcases List.mem_cons.mp hlater with rfl | hmore
            · exact Nat.le_of_eq (hconstant later (List.mem_cons_of_mem _ hlater) _ hfirst _ hb)
            · exact Nat.le_of_lt ((List.pairwise_cons.mp hrest).1 later hmore first hfirst b hb)
          rw [hconstant run List.mem_cons_self a ha last hlast]
          exact Nat.lt_of_lt_of_le hstep hlater

/-- Where the keys of some items ascend, cutting the items where the key changes gives runs of
one key each, and the keys of the runs ascend strictly. -/
theorem pairwise_splitBy {items : List α} (h : items.Pairwise fun a b => key a ≤ key b) :
    (∀ run ∈ items.splitBy fun a b => key a = key b, ∀ a ∈ run, ∀ b ∈ run, key a = key b) ∧
      (items.splitBy fun a b => key a = key b).Pairwise fun run later =>
        ∀ a ∈ run, ∀ b ∈ later, key a < key b := by
  have hconstant : ∀ run ∈ items.splitBy fun a b => key a = key b,
      ∀ a ∈ run, ∀ b ∈ run, key a = key b := by
    intro run hrun
    have hchain := List.isChain_of_mem_splitBy hrun
    simp only [decide_eq_true_eq] at hchain
    have : IsTrans α fun a b => key a = key b := ⟨fun _ _ _ => Eq.trans⟩
    have hpairs := List.isChain_iff_pairwise.mp hchain
    have : Std.Symm fun a b => key a = key b := ⟨fun _ _ => Eq.symm⟩
    intro a ha b hb
    exact List.Pairwise.forall_of_forall (R := fun a b => key a = key b) (fun _ _ => rfl) hpairs
      ha hb
  refine ⟨hconstant, pairwise_lt_of_runs hconstant ?_ ?_⟩
  · rwa [List.flatten_splitBy]
  · refine (List.isChain_getLast_head_splitBy _ items).imp fun run next ⟨hrun, hnext, hkey⟩ => ?_
    exact ⟨_, List.getLast_mem hrun, _, List.head_mem hnext, of_decide_eq_false hkey⟩

end Runs

namespace CallSite

/-- A function is called at a column of a line: its name stands there directly before an opening
parenthesis, no word character comes before it, and it is not the name in the declaration that
the line makes. -/
structure CalledAt (name line : Line) (column : Nat) : Prop where
  call : name ++ [.char '('] <+: line.drop column
  start : (characterBefore none line column).any isWordChar = false
  use : ¬(Declaration.function? line = some name ∧ column = Declaration.functionColumn line)

variable {name line : Line} {column number : Nat} {lines : List Line} {site : CallSite}

theorem mem_wordStarts_startsWith_iff :
    column ∈ wordStarts (startsWith name) none 0 line ↔
      name ++ [.char '('] <+: line.drop column ∧
        (characterBefore none line column).any isWordChar = false := by
  rw [mem_wordStarts_iff, startsWith, List.isPrefixOf_iff_prefix]
  constructor
  · rintro ⟨-, hstart, hcall⟩
    exact ⟨hcall, hstart⟩
  · rintro ⟨hcall, hstart⟩
    have hne : name ++ [.char '('] ≠ [] :=
      List.append_ne_nil_of_right_ne_nil _ (List.cons_ne_nil _ _)
    exact ⟨lt_of_prefix_drop hne hcall, hstart, hcall⟩

theorem mem_columns_iff : column ∈ columns name line ↔ CalledAt name line column := by
  have hcalled : CalledAt name line column ↔
      column ∈ wordStarts (startsWith name) none 0 line ∧
        ¬(Declaration.function? line = some name ∧
          column = Declaration.functionColumn line) := by
    rw [mem_wordStarts_startsWith_iff]
    exact ⟨fun h => ⟨⟨h.call, h.start⟩, h.use⟩, fun h => ⟨h.1.1, h.1.2, h.2⟩⟩
  rw [hcalled]
  simp only [columns]
  split
  · next hdeclares => simp only [List.mem_filter, decide_eq_true_eq, hdeclares, true_and]
  · next hdeclares => simp only [hdeclares, false_and, not_false_eq_true, and_true]

theorem pairwise_columns (name line : Line) : (columns name line).Pairwise (· < ·) := by
  have hstarts := pairwise_wordStarts (startsWith name) line
  simp only [columns]
  split
  · exact hstarts.filter _
  · exact hstarts

theorem onLine_eq_map (name : Line) (known : Option Declared) (line : Line) (number : Nat) :
    onLine name known line number =
      (enclosing? known number).toList.flatMap fun caller =>
        (columns name line).map fun column =>
          ⟨caller, .onLine number column (column + name.length)⟩ := by
  rw [onLine]
  cases columns name line with
  | nil => cases enclosing? known number <;> rfl
  | cons column more =>
      cases enclosing? known number with
      | none => rfl
      | some caller => exact (List.append_nil _).symm

theorem mem_onLine_iff {known : Option Declared} :
    site ∈ onLine name known line number ↔
      enclosing? known number = some site.caller ∧
        ∃ column, CalledAt name line column ∧
          site.range = .onLine number column (column + name.length) := by
  obtain ⟨caller, range⟩ := site
  simp only [onLine_eq_map, List.mem_flatMap, Option.mem_toList, List.mem_map, mem_columns_iff]
  constructor
  · rintro ⟨other, hcaller, column, hcalled, hsite⟩
    cases hsite
    exact ⟨hcaller, column, hcalled, rfl⟩
  · rintro ⟨hcaller, column, hcalled, rfl⟩
    exact ⟨caller, hcaller, column, hcalled, rfl⟩

/-- The calls on a line are in order. -/
theorem pairwise_before_onLine (name : Line) (known : Option Declared) (line : Line)
    (number : Nat) : (onLine name known line number).Pairwise fun a b =>
      a.range.start.before b.range.start = true := by
  rw [onLine_eq_map]
  cases enclosing? known number with
  | none => exact List.Pairwise.nil
  | some caller =>
      simp only [Option.toList_some, List.flatMap_singleton, List.pairwise_map]
      exact (pairwise_columns name line).imp fun hlt => by simp [Position.before, Range.onLine, hlt]

/-- The calls in some lines, in order. -/
def all (name : Line) (lines : List Line) : List CallSite :=
  inLines name none 0 lines

theorem all_eq_flatMap (name : Line) (lines : List Line) :
    all name lines = lines.zipIdx.flatMap fun entry =>
      onLine name (Declared.nearestIn lines (entry.2 + 1)) entry.1 entry.2 :=
  inLines_eq List.drop_zero

theorem mem_all_iff :
    site ∈ all name lines ↔ ∃ number line, lines[number]? = some line ∧
      enclosingAt? lines number = some site.caller ∧
        ∃ column, CalledAt name line column ∧
          site.range = .onLine number column (column + name.length) := by
  rw [all_eq_flatMap]
  refine (mem_zipIdx_flatMap_iff (f := fun line number =>
    onLine name (Declared.nearestIn lines (number + 1)) line number)).trans ?_
  simp only [mem_onLine_iff]
  rfl

/-- A call is counted to the function of the line that it stands on. -/
theorem enclosingAt?_of_mem_all (h : site ∈ all name lines) :
    site.range.start.line < lines.length ∧
      enclosingAt? lines site.range.start.line = some site.caller := by
  obtain ⟨number, line, hline, hcaller, column, -, hrange⟩ := mem_all_iff.mp h
  rw [hrange]
  exact ⟨(List.getElem?_eq_some_iff.mp hline).1, hcaller⟩

/-- The calls in a document are in order. -/
theorem pairwise_before_all (name : Line) (lines : List Line) :
    (all name lines).Pairwise fun a b => a.range.start.before b.range.start = true := by
  rw [all_eq_flatMap, List.pairwise_flatMap]
  refine ⟨fun entry _ => pairwise_before_onLine .., ?_⟩
  refine (pairwise_zipIdx lines).imp fun hlt a ha b hb => ?_
  obtain ⟨-, column, -, hrange⟩ := mem_onLine_iff.mp ha
  obtain ⟨-, column', -, hrange'⟩ := mem_onLine_iff.mp hb
  simp [hrange, hrange', Position.before, Range.onLine, hlt]

/-- The declarations of the callers are in order. -/
theorem pairwise_caller_all (name : Line) (lines : List Line) :
    (all name lines).Pairwise fun a b => a.caller.number ≤ b.caller.number := by
  refine (pairwise_before_all name lines).imp_of_mem fun {a b} ha hb hbefore => ?_
  obtain ⟨-, hcaller⟩ := enclosingAt?_of_mem_all ha
  obtain ⟨hlt, hcaller'⟩ := enclosingAt?_of_mem_all hb
  refine enclosingAt?_mono ?_ hlt hcaller hcaller'
  simp only [Position.before, Bool.or_eq_true, Bool.and_eq_true, decide_eq_true_eq] at hbefore
  omega

end CallSite

namespace IncomingCall

/-- What an entry says of a function in some lines: its caller is the function that the lines
of its ranges are counted to, its ranges are in order, and each covers the name. -/
structure Gathers (call : IncomingCall) (name : Line) (lines : List Line) : Prop where
  caller : ∃ declared : Declared, call.caller = CallItem.ofDeclared call.caller.uri declared ∧
    ∀ range ∈ call.ranges, CallSite.enclosingAt? lines range.start.line = some declared
  ordered : call.ranges.Pairwise fun a b => a.start.before b.start = true
  covers : ∀ range ∈ call.ranges, range.Covers lines name ∧
    range.stop.character = range.start.character + name.length

/-- The documents, lines and columns of the calls in some entries. -/
def places (calls : List IncomingCall) : List (Text × Nat × Nat) :=
  calls.flatMap fun call => call.ranges.map fun range =>
    (call.caller.uri, range.start.line, range.start.character)

variable {call : IncomingCall} {name : Line} {uri text : Text}

theorem ofSites?_eq_some {sites : List CallSite} (h : ofSites? uri sites = some call) :
    ∃ first ∈ sites, call.caller = CallItem.ofDeclared uri first.caller ∧
      call.ranges = sites.map CallSite.range := by
  cases sites with
  | nil => cases h
  | cons first rest =>
      cases h
      exact ⟨first, List.mem_cons_self, rfl, rfl⟩

/-- An entry of a document is made of a run of its calls that have one caller. -/
theorem gathers_of_mem_inDocument (h : call ∈ inDocument name uri text) :
    call.Gathers name (lines text) := by
  obtain ⟨run, hrun, hcall⟩ := List.mem_filterMap.mp h
  obtain ⟨first, hfirst, hcaller, hranges⟩ := ofSites?_eq_some hcall
  have hsites := CallSite.pairwise_before_all name (lines text)
  have hmem : ∀ site ∈ run, site ∈ CallSite.all name (lines text) := by
    intro site hsite
    have hflatten := List.mem_flatten_of_mem hrun hsite
    rwa [List.flatten_splitBy] at hflatten
  have hsame := (pairwise_splitBy (CallSite.pairwise_caller_all name (lines text))).1 run hrun
  refine ⟨⟨first.caller, ?_, ?_⟩, ?_, ?_⟩
  · rw [hcaller]
    rfl
  · rw [hranges]
    intro range hrange
    obtain ⟨site, hsite, rfl⟩ := List.mem_map.mp hrange
    obtain ⟨hlt, hfound⟩ := CallSite.enclosingAt?_of_mem_all (hmem site hsite)
    obtain ⟨hltFirst, hfoundFirst⟩ := CallSite.enclosingAt?_of_mem_all (hmem first hfirst)
    rw [hfound, (CallSite.isGreatest_of_enclosingAt? hlt hfound).1.eq_of_number_eq
      (CallSite.isGreatest_of_enclosingAt? hltFirst hfoundFirst).1
      (hsame site hsite first hfirst)]
  · rw [hranges, List.pairwise_map]
    rw [← List.flatten_splitBy (fun a b => a.caller.number = b.caller.number)
      (CallSite.all name (lines text)), List.pairwise_flatten] at hsites
    exact hsites.1 run hrun
  · rw [hranges]
    intro range hrange
    obtain ⟨site, hsite, rfl⟩ := List.mem_map.mp hrange
    obtain ⟨number, line, hline, -, column, hcalled, heq⟩ :=
      CallSite.mem_all_iff.mp (hmem site hsite)
    rw [heq]
    exact ⟨Range.covers_word hline ((List.prefix_append name ['(']).trans hcalled.call), rfl⟩

/-- No two entries of a document are of one function. -/
theorem pairwise_inDocument (name : Line) (uri text : Text) :
    (inDocument name uri text).Pairwise fun a b =>
      a.caller.range.start.line < b.caller.range.start.line := by
  rw [inDocument, List.pairwise_filterMap]
  refine (pairwise_splitBy (CallSite.pairwise_caller_all name (lines text))).2.imp ?_
  intro run later hlt call hcall call' hcall'
  obtain ⟨first, hfirst, hcaller, -⟩ := ofSites?_eq_some hcall
  obtain ⟨first', hfirst', hcaller', -⟩ := ofSites?_eq_some hcall'
  rw [hcaller, hcaller']
  exact hlt first hfirst first' hfirst'

/-- The entries of a document list its calls, in order. -/
theorem places_inDocument (name : Line) (uri text : Text) :
    places (inDocument name uri text) =
      (CallSite.all name (lines text)).map fun site =>
        (uri, site.range.start.line, site.range.start.character) := by
  have hruns : ∀ runs : List (List CallSite), places (runs.filterMap (ofSites? uri)) =
      runs.flatten.map fun site =>
        (uri, site.range.start.line, site.range.start.character) := by
    intro runs
    induction runs with
    | nil => rfl
    | cons run rest ih =>
        rw [List.flatten_cons, List.map_append, ← ih]
        cases run with
        | nil => rfl
        | cons site more =>
            have hsome : ofSites? uri (site :: more) = some
              ⟨CallItem.ofDeclared uri site.caller, (site :: more).map CallSite.range⟩ := rfl
            rw [List.filterMap_cons_some hsome, places, List.flatMap_cons, List.map_map]
            rfl
  rw [inDocument, hruns, List.flatten_splitBy]
  rfl

end IncomingCall

/-! ## The entries of all open documents -/

/-- What is said of each document with its name is said once if that holds for each document. -/
theorem Store.nodup_flatMap {β : Type} (store : Store) {f : Text × Text → List (Text × β)}
    (hname : ∀ entry, ∀ item ∈ f entry, item.1 = entry.1) (hnodup : ∀ entry, (f entry).Nodup) :
    (store.entries.flatMap f).Nodup := by
  refine List.nodup_flatMap.mpr ⟨fun entry _ => hnodup entry, ?_⟩
  refine (List.pairwise_map.mp store.distinct).imp fun {entry other} hne item hitem hitem' => ?_
  exact hne ((hname entry item hitem).symm.trans (hname other item hitem'))

namespace IncomingCall

variable {store : Store} {callee : Text}

theorem incoming_eq_flatMap (store : Store) (h : callee ≠ "") :
    incoming store callee =
      store.entries.flatMap fun entry => inDocument callee.toList entry.1 entry.2 := by
  rw [incoming, if_neg (mt Text.isEmpty_iff.mp h)]

/-- The entries list the calls of all documents, in the order of the documents. -/
theorem places_incoming (store : Store) (h : callee ≠ "") :
    places (incoming store callee) =
      store.entries.flatMap fun entry =>
        (CallSite.all callee.toList (lines entry.2)).map fun site =>
          (entry.1, site.range.start.line, site.range.start.character) := by
  rw [incoming_eq_flatMap store h, places, List.flatMap_assoc]
  exact List.flatMap_congr fun entry _ => places_inDocument callee.toList entry.1 entry.2

/-- What is listed are the calls in open documents whose lines are counted to a function. -/
theorem mem_places_iff (h : callee ≠ "") {number column : Nat} :
    (uri, number, column) ∈ places (incoming store callee) ↔
      store.HasLines uri fun lines => ∃ line, lines[number]? = some line ∧
        CallSite.CalledAt callee.toList line column ∧
          (CallSite.enclosingAt? lines number).isSome = true := by
  rw [places_incoming store h, List.mem_flatMap]
  constructor
  · rintro ⟨⟨uri', text⟩, hentry, hmem⟩
    obtain ⟨site, hsite, hplace⟩ := List.mem_map.mp hmem
    obtain ⟨number', line, hline, hcaller, column', hcalled, hrange⟩ :=
      CallSite.mem_all_iff.mp hsite
    rw [hrange] at hplace
    cases hplace
    exact ⟨text, Store.get?_of_mem_entries hentry, line, hline, hcalled,
      Option.isSome_iff_exists.mpr ⟨_, hcaller⟩⟩
  · rintro ⟨text, hget, line, hline, hcalled, hsome⟩
    obtain ⟨caller, hcaller⟩ := Option.isSome_iff_exists.mp hsome
    refine ⟨(uri, text), Store.mem_entries_of_get? hget, List.mem_map.mpr ?_⟩
    exact ⟨⟨caller, .onLine number column (column + callee.toList.length)⟩,
      CallSite.mem_all_iff.mpr ⟨number, line, hline, hcaller, column, hcalled, rfl⟩, rfl⟩

/-- No place is listed twice. -/
theorem nodup_places (store : Store) (h : callee ≠ "") :
    (places (incoming store callee)).Nodup := by
  rw [places_incoming store h]
  refine store.nodup_flatMap (fun entry item hitem => ?_) fun entry => ?_
  · obtain ⟨site, -, rfl⟩ := List.mem_map.mp hitem
    rfl
  · rw [List.Nodup, List.pairwise_map]
    refine (CallSite.pairwise_before_all _ _).imp fun hbefore heq => ?_
    simp only [Prod.mk.injEq, true_and] at heq
    simp [Position.before, heq] at hbefore

/-- No two entries are of one function. -/
theorem nodup_callers (store : Store) (h : callee ≠ "") :
    ((incoming store callee).map fun call =>
      (call.caller.uri, call.caller.range.start.line)).Nodup := by
  rw [incoming_eq_flatMap store h, List.map_flatMap]
  refine store.nodup_flatMap (fun entry item hitem => ?_) fun entry => ?_
  · obtain ⟨call, hcall, rfl⟩ := List.mem_map.mp hitem
    exact (placed_of_mem_inDocument hcall).1
  · rw [List.Nodup, List.pairwise_map]
    refine (pairwise_inDocument _ _ _).imp fun hlt heq => ?_
    exact Nat.ne_of_lt hlt (congrArg Prod.snd heq)

/-- All calls of a function from within functions are listed once, and nothing else is: the
places of an opening parenthesis behind the name, where no word character comes before the name
and the line does not declare it there. The calls are gathered by the functions that their lines
are counted to, one entry for each, with the ranges in order and each covering the name. -/
theorem incoming_lists_calls_once (store : Store) (h : callee ≠ "") :
    (places (incoming store callee)).Nodup ∧
      (∀ uri number column, (uri, number, column) ∈ places (incoming store callee) ↔
        store.HasLines uri fun lines => ∃ line, lines[number]? = some line ∧
          CallSite.CalledAt callee.toList line column ∧
            (CallSite.enclosingAt? lines number).isSome = true) ∧
      ((incoming store callee).map fun call =>
        (call.caller.uri, call.caller.range.start.line)).Nodup ∧
      ∀ call ∈ incoming store callee,
        store.HasLines call.caller.uri (call.Gathers callee.toList) := by
  refine ⟨nodup_places store h, fun uri number column => mem_places_iff h,
    nodup_callers store h, fun call hcall => ?_⟩
  rw [incoming_eq_flatMap store h] at hcall
  obtain ⟨⟨uri, text⟩, hentry, hmem⟩ := List.mem_flatMap.mp hcall
  obtain ⟨rfl, -⟩ := placed_of_mem_inDocument hmem
  exact ⟨text, Store.get?_of_mem_entries hentry, gathers_of_mem_inDocument hmem⟩

/-- A function that calls itself twice on its own line, a call outside of every function, a
longer name, and a function that is not closed. -/
theorem recursive_calls_listed :
    let store := Store.ofList
      [("file:///a.toy", "fn f() \x7b f(f(1))\n\x7d\nf()\nfn g() \x7b\n  ff(f())"),
        ("file:///b.toy", "fn h() \x7b\nf(f(2))")]
    ("f" : Text) ≠ "" ∧
      places (incoming store "f") =
        ([("file:///a.toy", 0, 9), ("file:///a.toy", 0, 11), ("file:///a.toy", 4, 5),
          ("file:///b.toy", 1, 0), ("file:///b.toy", 1, 2)] : List (Text × Nat × Nat)) ∧
      ((incoming store "f").map fun call => call.caller.name) = (["f", "g", "h"] : List Text) ∧
      (∀ uri number column, (uri, number, column) ∈ places (incoming store "f") ↔
        store.HasLines uri fun lines => ∃ line, lines[number]? = some line ∧
          CallSite.CalledAt ['f'] line column ∧
            (CallSite.enclosingAt? lines number).isSome = true) ∧
      ∀ call ∈ incoming store "f", store.HasLines call.caller.uri (call.Gathers ['f']) := by
  intro store
  have hcallee : ("f" : Text) ≠ "" := by decide
  obtain ⟨-, hplaces, -, hcalls⟩ := incoming_lists_calls_once store hcallee
  exact ⟨hcallee, by decide +kernel, by decide +kernel, hplaces, hcalls⟩

open CallSite in
/-- The function that the calls on a line are counted to is the innermost one that the line lies
in. There is none exactly if all functions that the line lies in are hidden by one that is closed
before it, and exactly then the calls on the line are not reported. -/
theorem innermost_function_missed_exactly {lines : List Line} {number : Nat}
    (h : number < lines.length) :
    (∀ declared, enclosingAt? lines number = some declared →
      declared.From lines ∧ IsGreatest {start | Encloses lines start number} declared.number) ∧
      (enclosingAt? lines number = none ↔
        ∀ start, Encloses lines start number → Hidden lines start number) ∧
      ∀ (store : Store) (uri text callee : Text) (line : Line) (column : Nat),
        (uri, text) ∈ store.entries → Text.lines text = lines → callee ≠ "" →
          lines[number]? = some line → CalledAt callee.toList line column →
            ((uri, number, column) ∉ places (incoming store callee) ↔
              ∀ start, Encloses lines start number → Hidden lines start number) := by
  refine ⟨fun declared => isGreatest_of_enclosingAt? h, enclosingAt?_eq_none_iff h, ?_⟩
  intro store uri text callee line column hentry hlines hcallee hline hcalled
  have hget := Store.get?_of_mem_entries hentry
  rw [← enclosingAt?_eq_none_iff h, mem_places_iff hcallee, ← Option.not_isSome_iff_eq_none]
  refine not_congr ⟨?_, fun hsome => ⟨text, hget, line, ?_, hcalled, ?_⟩⟩
  · rintro ⟨text', hget', line', -, -, hsome⟩
    rw [hget] at hget'
    cases hget'
    rwa [hlines] at hsome
  · rwa [hlines]
  · rwa [hlines]

open CallSite in
/-- A call behind the end of an inner function. -/
theorem outer_function_missed :
    let text : Text := "fn a() \x7b\nfn b() \x7b\n\x7d\nx();\n\x7d"
    let store := Store.ofList [("file:///a.toy", text)]
    3 < (lines text).length ∧ Encloses (lines text) 0 3 ∧ Hidden (lines text) 0 3 ∧
      enclosingAt? (lines text) 3 = none ∧ CalledAt ['x'] ['x', '(', ')', ';'] 0 ∧
      (("file:///a.toy" : Text), 3, 0) ∉ places (incoming store "x") := by
  intro text store
  have hnumber : 3 < (lines text).length := by decide +kernel
  have hclosing : Block.closing? (lines text) 0 = some 4 := by decide +kernel
  have houter : Encloses (lines text) 0 3 := by
    refine ⟨by decide +kernel, by decide, fun last hlast => ?_⟩
    rw [hclosing] at hlast
    cases hlast
    decide
  have hnone : enclosingAt? (lines text) 3 = none :=
    Option.isNone_iff_eq_none.mp (by decide +kernel)
  have hcalled : CalledAt ['x'] ['x', '(', ')', ';'] 0 := mem_columns_iff.mp (by decide +kernel)
  obtain ⟨-, hmissed, hcalls⟩ := innermost_function_missed_exactly hnumber
  have hhidden := hmissed.mp hnone
  refine ⟨hnumber, houter, hhidden 0 houter, hnone, hcalled, ?_⟩
  exact (hcalls store "file:///a.toy" text "x" _ 0 (by decide +kernel) rfl (by decide)
    (by decide +kernel) hcalled).mpr hhidden

end IncomingCall

end LanguageServer
