/-
# What the search for symbols misses

A document whose text in lower case does not contain the query is passed over before its
lines are looked at. That would be sound if lower case went character by character. A name
such as `ΑΣ` ends in a final sigma by itself, but not where it stands if a letter follows
behind a full stop or another ignorable character. A query with a final sigma is then found
in the name and not in the text.

These are the only names that a search can miss, and it misses them exactly when nothing
else in the document contains the query (`WorkspaceSymbol.search_misses_exactly`). It never
reports anything else.
-/

import LanguageServer.Feature.Symbol
import LanguageServer.Proofs.Column
import LanguageServer.Proofs.LowerCase
import LanguageServer.Proofs.Place
import Mathlib.Data.List.Flatten
import Mathlib.Data.List.Infix

namespace LanguageServer

open Text

namespace Text

/-- A word is found on one side of a character that it does not have. -/
theorem infix_of_infix_append_cons {word front back : List CodePoint} {c : CodePoint} (h : c ∉ word)
    (hword : word <:+: front ++ c :: back) : word <:+: front ∨ word <:+: back := by
  rcases List.infix_append_iff.mp hword with hfront | hback | ⟨before, after, rfl, hbefore, hafter⟩
  · exact Or.inl hfront
  · rcases List.infix_cons_iff.mp hback with hprefix | hback
    · cases word with
      | nil => exact Or.inl List.nil_infix
      | cons d word =>
          exact absurd (List.mem_cons.mpr (Or.inl (List.cons_prefix_cons.mp hprefix).1.symm)) h
    · exact Or.inr hback
  · cases after with
    | nil =>
        rw [List.append_nil]
        exact Or.inl hbefore.isInfix
    | cons d after =>
        refine absurd (List.mem_append.mpr (Or.inr ?_)) h
        exact List.mem_cons.mpr (Or.inl (List.cons_prefix_cons.mp hafter).1.symm)

end Text

namespace Declaration

/-- What follows the name that a line declares. -/
def behindName (lead line : Line) : Line :=
  ((trimStart line).drop lead.length).dropWhile isWordChar

theorem eq_append_of_name? {lead line name : Line} (h : name? lead line = some name) :
    line = leadingBlanks line ++ (lead ++ (name ++ behindName lead line)) := by
  simp only [name?, nameAfter?] at h
  split at h
  · next hlead =>
      split at h
      · cases h
      · cases h
        obtain ⟨rest, hrest⟩ := List.isPrefixOf_iff_prefix.mp hlead
        have hbehind : leadingWord rest ++ behindName lead line = rest := by
          rw [behindName, ← hrest, List.drop_left]
          exact List.takeWhile_append_dropWhile
        rw [← hrest, List.drop_left, hbehind, hrest, leadingBlanks_append_trimStart]
  · cases h

/-- The name that a line declares ends in a final sigma by itself, but a cased letter follows
it on the line, so that the sigma is not final there. -/
def TornSigma (lead line name : Line) : Prop :=
  sigmaLast false name = true ∧ casedAhead (behindName lead line) = true

/-- What the lower case of a declared name contains, the lower case of its line contains too,
unless that has a final sigma and the name is torn from a sigma that is none. -/
theorem infix_lower_line {word line name query : Line}
    (hname : name? (word ++ [.char ' ']) line = some name) (hquery : query <:+: lower name)
    (h : .char 'ς' ∈ query → ¬TornSigma (word ++ [.char ' ']) line name) :
    query <:+: lower line := by
  have hline : lower line = lower (leadingBlanks line ++ word) ++
      .char ' ' :: lower (name ++ behindName (word ++ [.char ' ']) line) := by
    rw [← lower_append_blank _ (by decide)]
    refine congrArg lower ((eq_append_of_name? hname).trans ?_)
    simp only [List.append_assoc, List.singleton_append]
  have hsuffix : lower (name ++ behindName (word ++ [.char ' ']) line) <:+: lower line := by
    rw [hline]
    exact ((List.suffix_cons _ _).trans (List.suffix_append _ _)).isInfix
  refine List.IsInfix.trans ?_ hsuffix
  by_cases htorn : TornSigma (word ++ [.char ' ']) line name
  · have hplain : .char 'ς' ∉ query := fun hfinal => h hfinal htorn
    obtain ⟨front, back, hlower, hlower'⟩ := lowerAfter_append_sigma htorn.1 htorn.2
    rw [lower, hlower] at hquery
    rw [lower, hlower']
    rcases infix_of_infix_append_cons hplain hquery with hfront | hback
    · exact hfront.trans ((List.prefix_append _ _).trans (List.prefix_append _ _)).isInfix
    · refine (hback.trans ?_).trans (List.prefix_append _ _).isInfix
      exact ((List.suffix_cons _ _).trans (List.suffix_append _ _)).isInfix
  · have hkept :
        (sigmaLast false name && casedAhead (behindName (word ++ [.char ' ']) line)) = false := by
      rw [← Bool.not_eq_true, Bool.and_eq_true]
      exact htorn
    rw [lower, lowerAfter_append false name hkept]
    exact hquery.trans (List.prefix_append _ _).isInfix

end Declaration

namespace WorkspaceSymbol

/-- All declarations of a document whose names contain a query in lower case. -/
def matchingIn (query : Line) (uri text : Text) : List WorkspaceSymbol :=
  (lines text).zipIdx.flatMap fun (line, number) => ofLine query uri line number

/-- All declarations in the open documents whose names contain the query, without regard to
case, in the order of the documents and of their lines. -/
def matching (store : Store) (query : Text) : List WorkspaceSymbol :=
  store.entries.flatMap fun (uri, text) => matchingIn (lower query.toList) uri text

/-- A line declares a name that contains a query in lower case. The query has a final sigma,
and the name ends in one that is not final on the line. -/
def MeetsSigma (query line : Line) : Prop :=
  .char 'ς' ∈ query ∧ ∃ entry ∈ searched, ∃ name, Declaration.name? entry.1 line = some name ∧
    contains query (lower name) = true ∧ Declaration.TornSigma entry.1 line name

theorem exists_lead_of_mem_searched {entry : Line × Wire.SymbolKind} (h : entry ∈ searched) :
    ∃ word, entry.1 = word ++ [.char ' '] := by
  rcases List.mem_cons.mp h with rfl | h
  · exact ⟨['f', 'n'], rfl⟩
  · rw [List.mem_singleton.mp h]
    exact ⟨['s', 't', 'r', 'u', 'c', 't'], rfl⟩

variable {query line : Line} {uri text : Text}

/-- A line has a declaration for a query if it declares a name that contains it. -/
theorem ofLine_ne_nil_iff (uri : Text) (number : Nat) :
    ofLine query uri line number ≠ [] ↔
      ∃ entry ∈ searched, ∃ name, Declaration.name? entry.1 line = some name ∧
        contains query (lower name) = true := by
  constructor
  · intro h
    obtain ⟨symbol, hsymbol⟩ := List.exists_mem_of_ne_nil _ h
    obtain ⟨entry, hentry, name, hname, hquery, -⟩ := mem_ofLine_iff.mp hsymbol
    exact ⟨entry, hentry, name, hname, hquery⟩
  · rintro ⟨entry, hentry, name, hname, hquery⟩
    exact List.ne_nil_of_mem (mem_ofLine_iff.mpr ⟨entry, hentry, name, hname, hquery, rfl⟩)

/-- The lower case of a line with a declaration for a query contains the query, unless a sigma
is in the way. -/
theorem infix_lower_of_ofLine_ne_nil {number : Nat} (h : ofLine query uri line number ≠ [])
    (hsigma : ¬MeetsSigma query line) : query <:+: lower line := by
  obtain ⟨entry, hentry, name, hname, hquery⟩ := (ofLine_ne_nil_iff uri number).mp h
  obtain ⟨word, hword⟩ := exists_lead_of_mem_searched hentry
  refine Declaration.infix_lower_line (hword ▸ hname) (contains_iff_isInfix.mp hquery) ?_
  intro hfinal htorn
  exact hsigma ⟨hfinal, entry, hentry, name, hname, hquery, hword ▸ htorn⟩

theorem matchingIn_ne_nil_iff :
    matchingIn query uri text ≠ [] ↔
      ∃ line ∈ lines text, ∃ entry ∈ searched, ∃ name,
        Declaration.name? entry.1 line = some name ∧ contains query (lower name) = true := by
  constructor
  · intro h
    obtain ⟨symbol, hsymbol⟩ := List.exists_mem_of_ne_nil _ h
    obtain ⟨number, line, hline, hmem⟩ := mem_zipIdx_flatMap_iff.mp hsymbol
    exact ⟨line, List.mem_of_getElem? hline,
      (ofLine_ne_nil_iff uri number).mp (List.ne_nil_of_mem hmem)⟩
  · rintro ⟨line, hline, hfound⟩
    obtain ⟨number, hnumber⟩ := List.mem_iff_getElem?.mp hline
    obtain ⟨symbol, hsymbol⟩ := List.exists_mem_of_ne_nil _
      ((ofLine_ne_nil_iff uri number).mpr hfound)
    exact List.ne_nil_of_mem (mem_zipIdx_flatMap_iff.mpr ⟨number, line, hnumber, hsymbol⟩)

/-- Nothing but matching declarations is found in a document. -/
theorem ofDocument_sublist (query : Line) (uri text : Text) :
    (ofDocument query uri text).Sublist (matchingIn query uri text) := by
  rw [ofDocument]
  split
  · exact List.Sublist.refl _
  · exact List.nil_sublist _

/-- All that matches in a document is found, unless a sigma is in the way and the document does
not contain the query elsewhere. -/
theorem ofDocument_eq_matchingIn_iff :
    ofDocument query uri text = matchingIn query uri text ↔
      ((∃ line ∈ lines text, MeetsSigma query line) →
        contains query (lower text.toList) = true) := by
  rw [ofDocument]
  split
  · next hcontains => exact iff_of_true rfl fun _ => hcontains
  · next hcontains =>
      constructor
      · rintro hnone ⟨line, hline, -, entry, hentry, name, hname, hquery, -⟩
        have hfound : matchingIn query uri text ≠ [] :=
          matchingIn_ne_nil_iff.mpr ⟨line, hline, entry, hentry, name, hname, hquery⟩
        exact absurd hnone.symm hfound
      · intro hsigma
        by_contra hsome
        obtain ⟨line, hline, hfound⟩ := matchingIn_ne_nil_iff.mp (Ne.symm hsome)
        have hline' : query <:+: lower line :=
          infix_lower_of_ofLine_ne_nil ((ofLine_ne_nil_iff uri 0).mpr hfound)
            fun hmeets => hcontains (hsigma ⟨line, hline, hmeets⟩)
        exact hcontains (contains_iff_isInfix.mpr (hline'.trans (lower_infix_of_mem_lines hline)))

/-- Where each of some parts is a sublist of its counterpart, all of them together are equal to
all counterparts only if each one is. -/
theorem flatMap_eq_iff_of_sublist {α β : Type} {f g : α → List β} {items : List α}
    (h : ∀ item ∈ items, (f item).Sublist (g item)) :
    items.flatMap f = items.flatMap g ↔ ∀ item ∈ items, f item = g item := by
  refine ⟨fun heq => ?_, List.flatMap_congr⟩
  induction items with
  | nil => exact fun item hitem => absurd hitem List.not_mem_nil
  | cons first rest ih =>
      have hrest : ∀ item ∈ rest, (f item).Sublist (g item) := fun item hitem =>
        h item (List.mem_cons_of_mem _ hitem)
      have hfirst := h first List.mem_cons_self
      have hlength := congrArg List.length heq
      simp only [List.flatMap_cons, List.length_append] at hlength
      have hle := hfirst.length_le
      have hle' := (List.Sublist.flatMap_right rest hrest).length_le
      have hsame : f first = g first := hfirst.eq_of_length (by omega)
      rw [List.flatMap_cons, List.flatMap_cons, hsame] at heq
      intro item hitem
      rcases List.mem_cons.mp hitem with rfl | hitem
      · exact hsame
      · exact ih hrest (List.append_cancel_left heq) item hitem

/-- The search for a query that is not empty finds nothing but declarations whose names contain
the query without regard to case. It finds all of them, in their order, exactly if each
document that has one with a sigma in the way contains the query in lower case anyway. -/
theorem search_misses_exactly (store : Store) {query : Text} (hquery : query ≠ "") :
    (search store query).Sublist (matching store query) ∧
      (search store query = matching store query ↔
        ∀ uri text, (uri, text) ∈ store.entries →
          (∃ line ∈ lines text, MeetsSigma (lower query.toList) line) →
            contains (lower query.toList) (lower text.toList) = true) := by
  have hsearch : search store query =
      store.entries.flatMap fun (uri, text) => ofDocument (lower query.toList) uri text := by
    rw [search, if_neg (mt Text.isEmpty_iff.mp hquery)]
  rw [hsearch, matching]
  refine ⟨List.Sublist.flatMap_right _ fun document _ => ofDocument_sublist _ _ _, ?_⟩
  rw [flatMap_eq_iff_of_sublist fun document _ => ofDocument_sublist _ _ _]
  constructor
  · intro hall uri text hentry
    exact ofDocument_eq_matchingIn_iff.mp (hall (uri, text) hentry)
  · rintro hall ⟨uri, text⟩ hentry
    exact ofDocument_eq_matchingIn_iff.mpr (hall uri text hentry)

/-- A search for the very name of the only function. The letter behind the full stop makes the
sigma of the name an ordinary one in the text. -/
theorem name_with_sigma_missed :
    let store := Store.ofList [("file:///a.toy", "fn ΑΣ.a")]
    let query : Text := "ΑΣ"
    query ≠ "" ∧ search store query = [] ∧
      matching store query = [⟨query, .function, ⟨"file:///a.toy", .onLine 0 0 7⟩⟩] ∧
      ∃ uri text, (uri, text) ∈ store.entries ∧
        (∃ line ∈ lines text, MeetsSigma (lower query.toList) line) ∧
        contains (lower query.toList) (lower text.toList) = false := by
  intro store query
  have hquery : query ≠ "" := by decide
  have hsearch : search store query = [] := by decide +kernel
  have hmatching : matching store query =
      [⟨query, .function, ⟨"file:///a.toy", .onLine 0 0 7⟩⟩] := by decide +kernel
  refine ⟨hquery, hsearch, hmatching, ?_⟩
  have hmissed := mt (search_misses_exactly store hquery).2.mpr
    (by rw [hsearch, hmatching]; exact List.cons_ne_nil _ _ ∘ Eq.symm)
  simpa only [not_forall, exists_prop, Bool.not_eq_true] using hmissed

end WorkspaceSymbol

end LanguageServer
