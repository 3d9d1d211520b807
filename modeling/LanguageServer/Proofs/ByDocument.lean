/-
# Answers from all open documents

The search for symbols and the callers of a function are answered from all open documents. Both
answers are made document by document, in the order of the documents. Opening, changing or
closing a document does not touch what is said of the others, nor its order
(`Store.answers_by_document`).

The callers can as well be gathered in a single table for all documents, call by call, under the
document and the line that declare the caller (`IncomingCall.table`). The calls of a caller follow
each other, and no document comes twice. A key that is new in the table is therefore set for good
before the next one is, and the callers in the table stand document by document, too.
-/

import LanguageServer.Proofs.IncomingCall
import LanguageServer.Proofs.PlacesInside

namespace LanguageServer

open Text

namespace OrderedMap

variable {κ α : Type} [DecidableEq κ] {key : κ} {entries : List (κ × α)}

/-- Sets a key to a value that is made from the one it has, if it has one. -/
def alter (key : κ) (change : Option α → α) (entries : List (κ × α)) : List (κ × α) :=
  insert key (change (entries.lookup key)) entries

theorem lookup_of_not_mem (h : key ∉ entries.map Prod.fst) : entries.lookup key = none := by
  rw [List.lookup_eq_none_iff]
  intro entry hentry
  rw [bne_iff_ne]
  rintro rfl
  exact h (List.mem_map_of_mem hentry)

/-- A key that is new goes last. -/
theorem alter_of_not_mem (h : key ∉ entries.map Prod.fst) (change : Option α → α) :
    alter key change entries = entries ++ [(key, change none)] := by
  rw [alter, lookup_of_not_mem h, insert_of_not_mem h]

/-- A key that is last stays there. -/
theorem alter_concat (h : key ∉ entries.map Prod.fst) (change : Option α → α) (value : α) :
    alter key change (entries ++ [(key, value)]) = entries ++ [(key, change (some value))] := by
  rw [alter, List.lookup_append, lookup_of_not_mem h, Option.none_or, List.lookup_cons_self,
    insert_append h, insert, if_pos rfl]

end OrderedMap

namespace Store

variable {β : Type}

/-- An answer from all open documents whose items each belong to one of them: it is made of the
answers for each document alone, in the order of the documents. Without a document it is the same
but for the items of that document, and with another text of a document the items of all others
are the same, in the same order. -/
structure ByDocument (answer : Store → List β) (document : β → Text) : Prop where
  concat : ∀ store,
    answer store = store.entries.flatMap fun entry => answer (Store.ofList [entry])
  erase : ∀ store uri,
    answer (store.erase uri) = (answer store).filter fun item => document item ≠ uri
  put : ∀ store uri text,
    ((answer (store.put uri text)).filter fun item => document item ≠ uri) =
      (answer store).filter fun item => document item ≠ uri

variable {answer : Store → List β} {document : β → Text} {items : Text × Text → List β}

/-- Leaving out the items of a document is leaving out the document. -/
theorem filter_flatMap_eq (h : ∀ entry, ∀ item ∈ items entry, document item = entry.1)
    (uri : Text) (entries : List (Text × Text)) :
    ((entries.flatMap items).filter fun item => document item ≠ uri) =
      (OrderedMap.erase uri entries).flatMap items := by
  induction entries with
  | nil => rfl
  | cons entry rest ih =>
      rw [List.flatMap_cons, List.filter_append, ih]
      by_cases huri : entry.1 = uri
      · have hnone : (items entry).filter (fun item => document item ≠ uri) = [] := by
          rw [List.filter_eq_nil_iff]
          intro item hitem
          simp [h entry item hitem, huri]
        rw [hnone, List.nil_append, OrderedMap.erase, OrderedMap.erase,
          List.filter_cons_of_neg (by simp [huri])]
      · have hall : (items entry).filter (fun item => document item ≠ uri) = items entry := by
          rw [List.filter_eq_self]
          intro item hitem
          simp [h entry item hitem, huri]
        rw [hall, OrderedMap.erase, OrderedMap.erase, List.filter_cons_of_pos (by simp [huri]),
          List.flatMap_cons]

theorem byDocument_of_flatMap (hanswer : ∀ store, answer store = store.entries.flatMap items)
    (h : ∀ entry, ∀ item ∈ items entry, document item = entry.1) :
    ByDocument answer document where
  concat store := by
    rw [hanswer]
    refine List.flatMap_congr fun entry _ => ?_
    rw [hanswer]
    exact (List.flatMap_singleton items entry).symm
  erase store uri := by
    rw [hanswer, hanswer, filter_flatMap_eq h, entries_erase]
  put store uri text := by
    rw [hanswer, hanswer, filter_flatMap_eq h, filter_flatMap_eq h, entries_put,
      OrderedMap.erase_insert]

/-- A request without a name is not looked for in any document. -/
theorem byDocument_of_ite {blank : Bool}
    (hanswer : ∀ store, answer store = if blank then [] else store.entries.flatMap items)
    (h : ∀ entry, ∀ item ∈ items entry, document item = entry.1) :
    ByDocument answer document := by
  cases blank with
  | false => exact byDocument_of_flatMap hanswer h
  | true =>
      have hnone : ∀ store, answer store = store.entries.flatMap fun _ => [] := fun store =>
        (hanswer store).trans (List.flatMap_eq_nil_iff.mpr fun _ _ => rfl).symm
      exact byDocument_of_flatMap hnone fun _ _ hitem => absurd hitem List.not_mem_nil

end Store

namespace IncomingCall

/-- One more call of a caller, behind those that are known. -/
def add (uri : Text) (site : CallSite) : Option IncomingCall → IncomingCall
  | none => ⟨.ofDeclared uri site.caller, [site.range]⟩
  | some call => { call with ranges := call.ranges ++ [site.range] }

/-- A table with the calls in one document added, each under the document and the line that
declare its caller. -/
def addAll (uri : Text) (known : List ((Text × Nat) × IncomingCall)) (sites : List CallSite) :
    List ((Text × Nat) × IncomingCall) :=
  sites.foldl (fun known site =>
    OrderedMap.alter (uri, site.caller.number) (add uri site) known) known

/-- The table of the callers of a function in all open documents. -/
def table (store : Store) (name : Line) : List ((Text × Nat) × IncomingCall) :=
  store.entries.foldl (fun known entry =>
    addAll entry.1 known (CallSite.all name (lines entry.2))) []

/-- A caller under its key. -/
def keyed (call : IncomingCall) : (Text × Nat) × IncomingCall :=
  ((call.caller.uri, call.caller.range.start.line), call)

variable {uri : Text} {known : List ((Text × Nat) × IncomingCall)}

theorem exists_key_of_ofSites? {sites : List CallSite} {call : IncomingCall}
    (h : ofSites? uri sites = some call) :
    ∃ site ∈ sites, (keyed call).1 = (uri, site.caller.number) := by
  obtain ⟨first, hfirst, hcaller, -⟩ := ofSites?_eq_some h
  refine ⟨first, hfirst, ?_⟩
  rw [keyed, hcaller]
  rfl

/-- More calls of the last caller in a table. -/
theorem addAll_concat {number : Nat} {sites : List CallSite}
    (hnew : (uri, number) ∉ known.map Prod.fst)
    (hsites : ∀ site ∈ sites, site.caller.number = number) (call : IncomingCall) :
    addAll uri (known ++ [((uri, number), call)]) sites =
      known ++ [((uri, number),
        { call with ranges := call.ranges ++ sites.map CallSite.range })] := by
  induction sites generalizing call with
  | nil => rw [List.map_nil, List.append_nil, addAll, List.foldl_nil]
  | cons site rest ih =>
      obtain ⟨hsite, hrest⟩ := List.forall_mem_cons.mp hsites
      have hadded := ih hrest (add uri site (some call))
      rw [addAll] at hadded ⊢
      rw [List.foldl_cons, hsite, OrderedMap.alter_concat hnew, hadded, add, List.map_cons,
        List.append_assoc, List.singleton_append]

/-- The calls of one caller that is not in a table yet. -/
theorem addAll_run {run : List CallSite}
    (hsame : ∀ a ∈ run, ∀ b ∈ run, a.caller.number = b.caller.number)
    (hnew : ∀ site ∈ run, (uri, site.caller.number) ∉ known.map Prod.fst) :
    addAll uri known run = known ++ ((ofSites? uri run).toList.map keyed) := by
  cases run with
  | nil => exact (List.append_nil known).symm
  | cons first rest =>
      have hfirst := hnew first List.mem_cons_self
      have hrest : ∀ site ∈ rest, site.caller.number = first.caller.number := fun site hsite =>
        hsame site (List.mem_cons_of_mem _ hsite) first List.mem_cons_self
      have hadded := addAll_concat hfirst hrest (add uri first none)
      rw [addAll] at hadded ⊢
      rw [List.foldl_cons, OrderedMap.alter_of_not_mem hfirst, hadded]
      rfl

/-- The calls of callers that come one after the other and are not in a table yet. -/
theorem addAll_runs {runs : List (List CallSite)}
    (hsame : ∀ run ∈ runs, ∀ a ∈ run, ∀ b ∈ run, a.caller.number = b.caller.number)
    (hascend : runs.Pairwise fun run later =>
      ∀ a ∈ run, ∀ b ∈ later, a.caller.number < b.caller.number)
    (hnew : ∀ run ∈ runs, ∀ site ∈ run, (uri, site.caller.number) ∉ known.map Prod.fst) :
    addAll uri known runs.flatten = known ++ (runs.filterMap (ofSites? uri)).map keyed := by
  induction runs generalizing known with
  | nil => exact (List.append_nil known).symm
  | cons run rest ih =>
      obtain ⟨hsameRun, hsameRest⟩ := List.forall_mem_cons.mp hsame
      obtain ⟨hnewRun, hnewRest⟩ := List.forall_mem_cons.mp hnew
      obtain ⟨hlater, hascend⟩ := List.pairwise_cons.mp hascend
      have hrun := addAll_run hsameRun hnewRun
      -- The caller that was just added is declared before those of all later calls.
      have hadded : ∀ later ∈ rest, ∀ site ∈ later,
          (uri, site.caller.number) ∉ (addAll uri known run).map Prod.fst := by
        intro later hmem site hsite hkey
        rw [hrun, List.map_append, List.mem_append] at hkey
        rcases hkey with hold | hcaller
        · exact hnewRest later hmem site hsite hold
        · rw [List.map_map] at hcaller
          obtain ⟨call, hcall, heq⟩ := List.mem_map.mp hcaller
          obtain ⟨first, hfirst, hfirstKey⟩ := exists_key_of_ofSites? (Option.mem_toList.mp hcall)
          exact Nat.ne_of_lt (hlater later hmem first hfirst site hsite)
            (congrArg Prod.snd (hfirstKey.symm.trans heq))
      have hrest := ih hsameRest hascend hadded
      rw [hrun] at hrest
      have hsplit : addAll uri known (run :: rest).flatten =
          addAll uri (addAll uri known run) rest.flatten := by
        rw [List.flatten_cons]
        exact List.foldl_append
      have hcalls : (ofSites? uri run).toList ++ rest.filterMap (ofSites? uri) =
          (run :: rest).filterMap (ofSites? uri) := by
        rw [List.filterMap_cons]
        cases ofSites? uri run <;> rfl
      rw [hsplit, hrun, hrest, List.append_assoc, ← List.map_append, hcalls]

/-- The calls in a document that is not in a table yet. -/
theorem addAll_document (name : Line) (text : Text)
    (hnew : ∀ key ∈ known.map Prod.fst, key.1 ≠ uri) :
    addAll uri known (CallSite.all name (lines text)) =
      known ++ (inDocument name uri text).map keyed := by
  obtain ⟨hsame, hascend⟩ := pairwise_splitBy (CallSite.pairwise_caller_all name (lines text))
  have hruns := addAll_runs hsame hascend fun _ _ site _ hkey => hnew _ hkey rfl
  rwa [List.flatten_splitBy] at hruns

/-- The calls in documents that are not in a table yet. -/
theorem foldl_addAll (name : Line) {entries : List (Text × Text)}
    (hdistinct : (entries.map Prod.fst).Nodup)
    (hnew : ∀ key ∈ known.map Prod.fst, key.1 ∉ entries.map Prod.fst) :
    entries.foldl (fun known entry =>
        addAll entry.1 known (CallSite.all name (lines entry.2))) known =
      known ++ (entries.flatMap fun entry => inDocument name entry.1 entry.2).map keyed := by
  induction entries generalizing known with
  | nil => exact (List.append_nil known).symm
  | cons entry rest ih =>
      obtain ⟨hentry, hdistinct⟩ := List.nodup_cons.mp hdistinct
      have hdocument := addAll_document name entry.2 fun key hkey huri =>
        hnew key hkey (huri ▸ List.mem_cons_self)
      rw [List.foldl_cons, hdocument, ih hdistinct, List.append_assoc, ← List.map_append,
        List.flatMap_cons]
      intro key hkey
      rw [List.map_append, List.mem_append] at hkey
      rcases hkey with hold | hcaller
      · exact fun hmem => hnew key hold (List.mem_cons_of_mem _ hmem)
      · rw [List.map_map] at hcaller
        obtain ⟨call, hcall, rfl⟩ := List.mem_map.mp hcaller
        rwa [Function.comp_apply, keyed, (placed_of_mem_inDocument hcall).1]

/-- The table has the callers of the documents one after the other. -/
theorem table_eq_map_keyed (store : Store) (name : Line) :
    table store name =
      (store.entries.flatMap fun entry => inDocument name entry.1 entry.2).map keyed := by
  have hempty : ∀ key ∈ ([] : List ((Text × Nat) × IncomingCall)).map Prod.fst,
      key.1 ∉ store.entries.map Prod.fst := fun key hkey => absurd hkey List.not_mem_nil
  exact foldl_addAll name store.distinct hempty

/-- The callers are those in the table, in the order in which they come into it. -/
theorem incoming_eq_table (store : Store) (callee : Text) :
    incoming store callee =
      if callee.isEmpty then [] else (table store callee.toList).map Prod.snd := by
  rw [incoming, table_eq_map_keyed, List.map_map]
  exact congrArg _ (List.map_id _).symm

/-- Callers on the same lines of two documents. -/
example :
    let store := Store.ofList
      [("file:///a.toy", "fn g() \x7b f(f(1))\n\x7d"), ("file:///b.toy", "fn g() \x7b\nf(2)")]
    (table store ['f']).map (fun entry => (entry.1, entry.2.ranges.length)) =
      ([(("file:///a.toy", 0), 2), (("file:///b.toy", 0), 1)] : List ((Text × Nat) × Nat)) := by
  decide +kernel

theorem byDocument_incoming (callee : Text) :
    Store.ByDocument (incoming · callee) fun call => call.caller.uri := by
  apply Store.byDocument_of_ite (fun store => rfl)
  exact fun entry call hcall => (placed_of_mem_inDocument hcall).1

end IncomingCall

theorem WorkspaceSymbol.byDocument_search (query : Text) :
    Store.ByDocument (search · query) fun symbol => symbol.location.uri := by
  apply Store.byDocument_of_ite (fun store => rfl)
  exact fun entry symbol hsymbol => (inside_of_mem_ofDocument hsymbol).1

/-- The search for symbols and the callers of a function are answered document by document, in
the order of the documents. The callers are those that come, call by call, into one table for all
documents, each at the place of its first call. -/
theorem Store.answers_by_document (query callee : Text) :
    ByDocument (WorkspaceSymbol.search · query) (fun symbol => symbol.location.uri) ∧
      ByDocument (IncomingCall.incoming · callee) (fun call => call.caller.uri) ∧
      ∀ store, IncomingCall.incoming store callee =
        if callee.isEmpty then []
        else (IncomingCall.table store callee.toList).map Prod.snd := by
  refine ⟨WorkspaceSymbol.byDocument_search query, IncomingCall.byDocument_incoming callee, ?_⟩
  exact fun store => IncomingCall.incoming_eq_table store callee

end LanguageServer
