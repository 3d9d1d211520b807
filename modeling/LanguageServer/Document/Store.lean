/-
# Open documents

The documents that a client has opened, each with its full text, in the order in
which they were first opened. A name occurs once.
-/

import LanguageServer.OrderedMap
import LanguageServer.Text.CodePoint

namespace LanguageServer

/-- The open documents. -/
structure Store where
  /-- Names and texts in the order of opening. -/
  entries : List (Text × Text)
  /-- No two documents share a name. -/
  distinct : (entries.map Prod.fst).Nodup

namespace Store

/-- No document is open. -/
def empty : Store :=
  ⟨[], List.nodup_nil⟩

instance : Inhabited Store := ⟨empty⟩

/-- The text of an open document. -/
def get? (store : Store) (uri : Text) : Option Text :=
  store.entries.lookup uri

/-- Whether a document is open. -/
def contains (store : Store) (uri : Text) : Bool :=
  (store.get? uri).isSome

/-- The number of open documents. -/
def size (store : Store) : Nat :=
  store.entries.length

/-- Sets the text of a document. A document that is open keeps its place, another
one goes last. -/
def put (store : Store) (uri text : Text) : Store :=
  ⟨OrderedMap.insert uri text store.entries, OrderedMap.nodup_keys_insert uri text store.distinct⟩

/-- Closes a document. -/
def erase (store : Store) (uri : Text) : Store :=
  ⟨OrderedMap.erase uri store.entries, OrderedMap.nodup_keys_erase uri store.distinct⟩

/-- The documents opened one after the other. -/
def ofList (documents : List (Text × Text)) : Store :=
  documents.foldl (fun store document => store.put document.1 document.2) empty

theorem entries_put (store : Store) (uri text : Text) :
    (store.put uri text).entries = OrderedMap.insert uri text store.entries := rfl

theorem entries_erase (store : Store) (uri : Text) :
    (store.erase uri).entries = OrderedMap.erase uri store.entries := rfl

@[simp]
theorem get?_put (store : Store) (uri text uri' : Text) :
    (store.put uri text).get? uri' = if uri' = uri then some text else store.get? uri' :=
  OrderedMap.lookup_insert uri uri' text store.entries

@[simp]
theorem get?_erase (store : Store) (uri uri' : Text) :
    (store.erase uri).get? uri' = if uri' = uri then none else store.get? uri' :=
  OrderedMap.lookup_erase uri uri' store.entries

/-- A document is open if it is among the names. -/
theorem contains_iff_mem {store : Store} {uri : Text} :
    store.contains uri = true ↔ uri ∈ store.entries.map Prod.fst := by
  rw [contains, get?]
  induction store.entries with
  | nil => simp
  | cons entry rest ih =>
      obtain ⟨first, text⟩ := entry
      by_cases hfirst : uri = first
      · simp [hfirst]
      · rw [OrderedMap.lookup_cons_of_ne hfirst, ih]
        simp [hfirst]

end Store

end LanguageServer
