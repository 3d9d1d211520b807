/-
# Maps in order of insertion

Association lists whose keys keep the place of their first insertion: setting a
known key changes its value only, and a new key goes last. Both the fields of a
JSON object and the open documents are kept this way, because their order shows.
-/

namespace LanguageServer.OrderedMap

variable {κ α : Type} [DecidableEq κ]

/-- Sets a key: in its place if it is known, at the end if it is new. -/
def insert (key : κ) (value : α) : List (κ × α) → List (κ × α)
  | [] => [(key, value)]
  | entry :: rest =>
      if entry.1 = key then (key, value) :: rest else entry :: insert key value rest

/-- Removes a key. -/
def erase (key : κ) (entries : List (κ × α)) : List (κ × α) :=
  entries.filter fun entry => entry.1 ≠ key

/-- Setting a key adds it to the keys unless it is there. -/
theorem keys_insert (key : κ) (value : α) (entries : List (κ × α)) :
    (insert key value entries).map Prod.fst =
      if key ∈ entries.map Prod.fst then entries.map Prod.fst
      else entries.map Prod.fst ++ [key] := by
  induction entries with
  | nil => simp [insert]
  | cons entry rest ih =>
      by_cases hkey : entry.1 = key
      · simp [insert, hkey]
      · have hkey' : ¬key = entry.1 := fun h => hkey h.symm
        by_cases hmem : key ∈ rest.map Prod.fst
        · rw [if_pos hmem] at ih
          rw [if_pos (by simp only [List.map_cons, List.mem_cons]; exact Or.inr hmem)]
          simp only [insert, hkey, if_false, List.map_cons, ih]
        · rw [if_neg hmem] at ih
          rw [if_neg (by simp only [List.map_cons, List.mem_cons]; exact not_or.mpr ⟨hkey', hmem⟩)]
          simp only [insert, hkey, if_false, List.map_cons, ih, List.cons_append]

/-- Distinct keys stay distinct when one is set. -/
theorem nodup_keys_insert (key : κ) (value : α) {entries : List (κ × α)}
    (h : (entries.map Prod.fst).Nodup) : ((insert key value entries).map Prod.fst).Nodup := by
  rw [keys_insert]
  split
  · exact h
  · next hmem =>
      rw [List.nodup_append]
      refine ⟨h, by simp, ?_⟩
      intro a ha b hb hab
      rw [List.mem_singleton] at hb
      exact hmem (hb ▸ hab ▸ ha)

/-- Distinct keys stay distinct when one is removed. -/
theorem nodup_keys_erase (key : κ) {entries : List (κ × α)}
    (h : (entries.map Prod.fst).Nodup) : ((erase key entries).map Prod.fst).Nodup :=
  h.sublist (List.filter_sublist.map Prod.fst)

theorem lookup_cons_of_ne {key first : κ} (h : key ≠ first) (content : α)
    (rest : List (κ × α)) : ((first, content) :: rest).lookup key = rest.lookup key := by
  rw [List.lookup_cons, beq_false_of_ne h]

/-- A key that is set has its new value, and the others keep theirs. -/
theorem lookup_insert (key key' : κ) (value : α) (entries : List (κ × α)) :
    (insert key value entries).lookup key' =
      if key' = key then some value else entries.lookup key' := by
  induction entries with
  | nil =>
      rw [insert]
      split
      · next hkey => rw [hkey, List.lookup_cons_self]
      · next hkey => rw [lookup_cons_of_ne hkey]
  | cons entry rest ih =>
      obtain ⟨first, content⟩ := entry
      by_cases hfirst : first = key
      · subst hfirst
        rw [insert, if_pos rfl]
        split
        · next hkey => rw [hkey, List.lookup_cons_self]
        · next hkey => rw [lookup_cons_of_ne hkey, lookup_cons_of_ne hkey]
      · rw [insert, if_neg hfirst]
        by_cases hkey : key' = first
        · subst hkey
          rw [List.lookup_cons_self, List.lookup_cons_self, if_neg hfirst]
        · rw [lookup_cons_of_ne hkey, lookup_cons_of_ne hkey, ih]

/-- A key that is removed has no value, and the others keep theirs. -/
theorem lookup_erase (key key' : κ) (entries : List (κ × α)) :
    (erase key entries).lookup key' = if key' = key then none else entries.lookup key' := by
  induction entries with
  | nil => simp [erase]
  | cons entry rest ih =>
      obtain ⟨first, content⟩ := entry
      by_cases hfirst : first = key
      · subst hfirst
        have herase : erase first ((first, content) :: rest) = erase first rest := by simp [erase]
        rw [herase, ih]
        split
        · rfl
        · next hkey => rw [lookup_cons_of_ne hkey]
      · have herase :
            erase key ((first, content) :: rest) = (first, content) :: erase key rest := by
          simp [erase, hfirst]
        rw [herase]
        by_cases hkey : key' = first
        · subst hkey
          rw [List.lookup_cons_self, List.lookup_cons_self, if_neg hfirst]
        · rw [lookup_cons_of_ne hkey, lookup_cons_of_ne hkey, ih]

/-- A key is looked for behind the entries that do not have it. -/
theorem insert_append {key : κ} {before : List (κ × α)} (h : key ∉ before.map Prod.fst)
    (value : α) (after : List (κ × α)) :
    insert key value (before ++ after) = before ++ insert key value after := by
  induction before with
  | nil => rfl
  | cons entry rest ih =>
      rw [List.map_cons, List.mem_cons, not_or] at h
      rw [List.cons_append, insert, if_neg (Ne.symm h.1), ih h.2, List.cons_append]

/-- A new key goes last. -/
theorem insert_of_not_mem {key : κ} {entries : List (κ × α)} (h : key ∉ entries.map Prod.fst)
    (value : α) : insert key value entries = entries ++ [(key, value)] := by
  have happend := insert_append h value []
  rwa [List.append_nil] at happend

/-- A known key keeps its place, and so does everything around it. -/
theorem insert_of_mem {key : κ} {entries : List (κ × α)} (h : key ∈ entries.map Prod.fst)
    (value : α) :
    ∃ before old after, entries = before ++ (key, old) :: after ∧
      insert key value entries = before ++ (key, value) :: after := by
  induction entries with
  | nil => cases h
  | cons entry rest ih =>
      obtain ⟨first, content⟩ := entry
      by_cases hfirst : first = key
      · subst hfirst
        exact ⟨[], content, rest, rfl, if_pos rfl⟩
      · have hrest : key ∈ rest.map Prod.fst :=
          (List.mem_cons.mp h).resolve_left (Ne.symm hfirst)
        obtain ⟨before, old, after, rfl, hinsert⟩ := ih hrest
        refine ⟨(first, content) :: before, old, after, rfl, ?_⟩
        rw [insert, if_neg hfirst, hinsert, List.cons_append]

/-- Setting a key before it is removed makes no difference. -/
theorem erase_insert (key : κ) (value : α) (entries : List (κ × α)) :
    erase key (insert key value entries) = erase key entries := by
  induction entries with
  | nil => simp [insert, erase]
  | cons entry rest ih =>
      by_cases hkey : entry.1 = key
      · simp [insert, erase, hkey]
      · simpa [insert, erase, hkey] using ih

/-- Removing a key that is not there changes nothing. -/
theorem erase_of_not_mem {key : κ} {entries : List (κ × α)} (h : key ∉ entries.map Prod.fst) :
    erase key entries = entries := by
  rw [erase, List.filter_eq_self]
  intro entry hentry
  exact decide_eq_true fun hkey => h (List.mem_map.mpr ⟨entry, hentry, hkey⟩)

/-- A key that is removed is taken out from between the others. -/
theorem erase_of_mem {key : κ} {entries : List (κ × α)} (hdistinct : (entries.map Prod.fst).Nodup)
    (h : key ∈ entries.map Prod.fst) :
    ∃ before old after, entries = before ++ (key, old) :: after ∧
      erase key entries = before ++ after := by
  obtain ⟨entry, hentry, rfl⟩ := List.mem_map.mp h
  obtain ⟨before, after, rfl⟩ := List.append_of_mem hentry
  rw [List.map_append, List.map_cons, List.nodup_append, List.nodup_cons] at hdistinct
  obtain ⟨-, ⟨hafter, -⟩, hbefore⟩ := hdistinct
  refine ⟨before, entry.2, after, rfl, ?_⟩
  have hkept : entry.1 ∉ before.map Prod.fst := fun hmem =>
    hbefore _ hmem _ List.mem_cons_self rfl
  have happend : erase entry.1 (before ++ entry :: after) =
      erase entry.1 before ++ erase entry.1 after := by
    simp [erase]
  rw [happend, erase_of_not_mem hkept, erase_of_not_mem hafter]

end LanguageServer.OrderedMap
