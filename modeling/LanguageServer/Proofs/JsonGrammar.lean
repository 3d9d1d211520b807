/-
# The grammar of JSON

Which sequences of tokens are written for a value, said without the reader: a scalar or a
string, or an array or an object whose parts are separated by commas (`Json.Written`). The reader
takes the tokens one after the other and keeps the open arrays and objects on a stack, but it
accepts exactly these sequences, as far as there is room for containers within containers
(`Json.exists_read_eq_ok_iff`).

In the one direction, what has been read fits what may come next, and every token that is taken
keeps it so (`Json.Expecting.Follows.take`). In the other direction the induction is over the
grammar, with anything behind the value and any containers around it (`Json.ReadsAs`).
-/

import LanguageServer.Proofs.JsonText

namespace LanguageServer.Json

/-- Sequences of tokens with a comma between each two. -/
def commaSeparated (parts : List (List Token)) : List Token :=
  List.intercalate [.comma] parts

/-- The tokens of a field: its key, a colon, and its value. -/
def fieldTokens (field : Text × List Token) : List Token :=
  .text field.1 :: .colon :: field.2

/-- A sequence of tokens that a value is written as, with at most the given number of containers
within each other. -/
inductive Written : Nat → List Token → Prop
  | scalar {depth : Nat} (value : Json) : Written depth [.scalar value]
  | text {depth : Nat} (s : Text) : Written depth [.text s]
  | array {depth : Nat} {items : List (List Token)} (hitems : ∀ item ∈ items, Written depth item) :
      Written (depth + 1) (.openArray :: (commaSeparated items ++ [.closeArray]))
  | object {depth : Nat} {fields : List (Text × List Token)}
      (hfields : ∀ field ∈ fields, Written depth field.2) :
      Written (depth + 1)
        (.openObject :: (commaSeparated (fields.map fieldTokens) ++ [.closeObject]))

/-- A text that is JSON, with no more containers within each other than there is room for. -/
def Grammatical (room : Nat) (text : Text) : Prop :=
  Written room (tokens text.toList)

theorem commaSeparated_cons (part : List Token) (parts : List (List Token)) :
    commaSeparated (part :: parts) = part ++ parts.flatMap (.comma :: ·) := by
  induction parts generalizing part with
  | nil => exact (List.intercalate_singleton).trans (List.append_nil part).symm
  | cons next parts ih =>
      rw [commaSeparated, List.intercalate_cons_cons, ← commaSeparated, ih, List.flatMap_cons,
        List.append_assoc]
      rfl

theorem commaSeparated_concat (parts : List (List Token)) (part : List Token) :
    commaSeparated (parts ++ [part]) = parts.flatMap (· ++ [.comma]) ++ part := by
  induction parts with
  | nil => exact List.intercalate_singleton
  | cons first parts ih =>
      cases parts with
      | nil =>
          rw [List.singleton_append, commaSeparated_cons]
          simp
      | cons next parts =>
          rw [List.cons_append, List.cons_append, commaSeparated, List.intercalate_cons_cons,
            ← commaSeparated, ← List.cons_append, ih]
          simp only [List.flatMap_cons, List.append_assoc]

variable {room : Nat}

/-- The tokens in front of a place where a value goes, with the containers that are open
there, the innermost first. -/
inductive Opens (room : Nat) : List Opened → List Token → Prop
  | top : Opens room [] []
  | item {outer : List Opened} {before : List Token} (known : List Json)
      {items : List (List Token)} (h : Opens room outer before) (hroom : outer.length < room)
      (hitems : ∀ item ∈ items, Written (room - outer.length - 1) item) :
      Opens room (.array known :: outer) (before ++ .openArray :: items.flatMap (· ++ [.comma]))
  | field {outer : List Opened} {before : List Token} (known : List (Text × Json)) (key : Text)
      {fields : List (Text × List Token)} (h : Opens room outer before)
      (hroom : outer.length < room)
      (hfields : ∀ field ∈ fields, Written (room - outer.length - 1) field.2) :
      Opens room (.object known key :: outer)
        (before ++ .openObject ::
          (fields.flatMap (fieldTokens · ++ [.comma]) ++ [.text key, .colon]))

/-- What may come next, after the tokens that have been taken. -/
inductive Expecting.Follows (room : Nat) : Expecting → List Token → Prop
  | value {outer : List Opened} {before : List Token} (h : Opens room outer before) :
      Follows room (.value outer) before
  | firstItem {outer : List Opened} {before : List Token} (h : Opens room outer before)
      (hroom : outer.length < room) : Follows room (.firstItem outer) (before ++ [.openArray])
  | firstKey {outer : List Opened} {before : List Token} (h : Opens room outer before)
      (hroom : outer.length < room) : Follows room (.firstKey outer) (before ++ [.openObject])
  | key {outer : List Opened} {before : List Token} (known : List (Text × Json))
      {fields : List (Text × List Token)} (h : Opens room outer before)
      (hroom : outer.length < room)
      (hfields : ∀ field ∈ fields, Written (room - outer.length - 1) field.2) :
      Follows room (.key known outer)
        (before ++ .openObject :: fields.flatMap (fieldTokens · ++ [.comma]))
  | colon {outer : List Opened} {before : List Token} (known : List (Text × Json))
      (label : Text) {fields : List (Text × List Token)} (h : Opens room outer before)
      (hroom : outer.length < room)
      (hfields : ∀ field ∈ fields, Written (room - outer.length - 1) field.2) :
      Follows room (.colon known label outer)
        (before ++ .openObject :: (fields.flatMap (fieldTokens · ++ [.comma]) ++ [.text label]))
  | afterItem {outer : List Opened} {before : List Token} (known : List Json)
      {items : List (List Token)} {item : List Token} (h : Opens room outer before)
      (hroom : outer.length < room)
      (hitems : ∀ item ∈ items, Written (room - outer.length - 1) item)
      (hitem : Written (room - outer.length - 1) item) :
      Follows room (.afterItem known outer)
        (before ++ .openArray :: (items.flatMap (· ++ [.comma]) ++ item))
  | afterField {outer : List Opened} {before : List Token} (known : List (Text × Json))
      {fields : List (Text × List Token)} {field : Text × List Token} (h : Opens room outer before)
      (hroom : outer.length < room)
      (hfields : ∀ field ∈ fields, Written (room - outer.length - 1) field.2)
      (hfield : Written (room - outer.length - 1) field.2) :
      Follows room (.afterField known outer)
        (before ++ .openObject :: (fields.flatMap (fieldTokens · ++ [.comma]) ++ fieldTokens field))
  | nothing (whole : Json) {input : List Token} (h : Written room input) :
      Follows room (.nothing whole) input

/-- A whole container takes one place of the room around it. -/
theorem written_array {outer : List Opened} (hroom : outer.length < room)
    {items : List (List Token)} (hitems : ∀ item ∈ items, Written (room - outer.length - 1) item) :
    Written (room - outer.length) (.openArray :: (commaSeparated items ++ [.closeArray])) := by
  have hdepth : room - outer.length - 1 + 1 = room - outer.length := by omega
  exact hdepth ▸ .array hitems

theorem written_object {outer : List Opened} (hroom : outer.length < room)
    {fields : List (Text × List Token)}
    (hfields : ∀ field ∈ fields, Written (room - outer.length - 1) field.2) :
    Written (room - outer.length)
      (.openObject :: (commaSeparated (fields.map fieldTokens) ++ [.closeObject])) := by
  have hdepth : room - outer.length - 1 + 1 = room - outer.length := by omega
  exact hdepth ▸ .object hfields

theorem Opens.deliver {outer : List Opened} {before input : List Token}
    (h : Opens room outer before) (hinput : Written (room - outer.length) input) (value : Json) :
    (Json.deliver value outer).Follows room (before ++ input) := by
  cases h with
  | top => exact .nothing value hinput
  | item known h hroom hitems =>
      rw [List.append_assoc, List.cons_append]
      exact .afterItem _ h hroom hitems hinput
  | @field outer before known key fields h hroom hfields =>
      rw [List.append_assoc, List.cons_append, List.append_assoc]
      exact @Expecting.Follows.afterField _ _ _ _ _ (key, input) h hroom hfields hinput

theorem Opens.startValue {outer : List Opened} {before : List Token} {token : Token}
    {next : Expecting} (h : Opens room outer before)
    (hstart : Json.startValue room outer token = .ok next) :
    next.Follows room (before ++ [token]) := by
  cases token with
  | scalar value =>
      cases hstart
      exact h.deliver (.scalar value) value
  | text s =>
      cases hstart
      exact h.deliver (.text s) (.str s)
  | openArray =>
      rw [Json.startValue] at hstart
      split at hstart
      · next hroom =>
          cases hstart
          exact .firstItem h hroom
      · cases hstart
  | openObject =>
      rw [Json.startValue] at hstart
      split at hstart
      · next hroom =>
          cases hstart
          exact .firstKey h hroom
      · cases hstart
  | closeArray | closeObject | comma | colon | oversized | junk => cases hstart

/-- Every token that is taken goes on with what has been read. -/
theorem Expecting.Follows.take {expecting next : Expecting} {input : List Token} {token : Token}
    (h : expecting.Follows room input) (htake : expecting.take room token = .ok next) :
    next.Follows room (input ++ [token]) := by
  cases h with
  | value h => exact h.startValue htake
  | @firstItem outer before h hroom =>
      by_cases hend : token = .closeArray
      · subst hend
        cases htake
        rw [List.append_assoc]
        exact h.deliver (@written_array _ _ hroom [] (List.forall_mem_nil _)) (.arr [])
      · rw [take_firstItem hend] at htake
        have hopens : Opens room (.array [] :: outer) (before ++ [.openArray]) :=
          @Opens.item _ _ _ [] [] h hroom (List.forall_mem_nil _)
        exact hopens.startValue htake
  | @firstKey outer before h hroom =>
      cases token with
      | closeObject =>
          cases htake
          rw [List.append_assoc]
          exact h.deliver (@written_object _ _ hroom [] (List.forall_mem_nil _)) (.obj [])
      | text label =>
          cases htake
          rw [List.append_assoc]
          exact @colon _ _ _ [] label [] h hroom (List.forall_mem_nil _)
      | openArray | closeArray | openObject | comma | colon | scalar | oversized | junk =>
          cases htake
  | @key outer before known fields h hroom hfields =>
      cases token with
      | text label =>
          cases htake
          rw [List.append_assoc]
          exact colon known label h hroom hfields
      | openArray | closeArray | openObject | closeObject | comma | colon | scalar | oversized
      | junk => cases htake
  | @colon outer before known label fields h hroom hfields =>
      cases token with
      | colon =>
          cases htake
          have hopens := Opens.field known label h hroom hfields
          simpa only [List.append_assoc, List.cons_append, List.nil_append] using value hopens
      | openArray | closeArray | openObject | closeObject | comma | scalar | text | oversized
      | junk => cases htake
  | @afterItem outer before known items item h hroom hitems hitem =>
      have hall : ∀ part ∈ items ++ [item], Written (room - outer.length - 1) part :=
        List.forall_mem_append.mpr ⟨hitems, List.forall_mem_singleton.mpr hitem⟩
      cases token with
      | comma =>
          cases htake
          have hopens := Opens.item known h hroom hall
          simpa only [List.append_assoc, List.cons_append, List.flatMap_append,
            List.flatMap_singleton] using value hopens
      | closeArray =>
          cases htake
          have hwritten := written_array hroom hall
          rw [commaSeparated_concat] at hwritten
          rw [List.append_assoc]
          exact h.deliver hwritten (.arr known.reverse)
      | openArray | openObject | closeObject | colon | scalar | text | oversized | junk =>
          cases htake
  | @afterField outer before known fields field h hroom hfields hfield =>
      have hall : ∀ part ∈ fields ++ [field], Written (room - outer.length - 1) part.2 :=
        List.forall_mem_append.mpr ⟨hfields, List.forall_mem_singleton.mpr hfield⟩
      cases token with
      | comma =>
          cases htake
          have hkey := key known h hroom hall
          simpa only [List.append_assoc, List.cons_append, List.flatMap_append,
            List.flatMap_singleton] using hkey
      | closeObject =>
          cases htake
          have hwritten := written_object hroom hall
          rw [List.map_append, List.map_singleton, commaSeparated_concat, List.flatMap_map]
            at hwritten
          rw [List.append_assoc]
          exact h.deliver hwritten (.obj known)
      | openArray | closeArray | openObject | colon | scalar | text | oversized | junk =>
          cases htake
  | nothing whole h => cases token <;> cases htake

theorem Expecting.Follows.takeAll {expecting final : Expecting} {before input : List Token}
    (h : expecting.Follows room before) (htakeAll : expecting.takeAll room input = .ok final) :
    final.Follows room (before ++ input) := by
  induction input generalizing expecting before with
  | nil =>
      cases htakeAll
      rwa [List.append_nil]
  | cons token input ih =>
      cases htake : expecting.take room token with
      | error fault =>
          rw [Expecting.takeAll, List.foldlM_cons, htake] at htakeAll
          cases htakeAll
      | ok next =>
          rw [takeAll_cons htake] at htakeAll
          rw [List.append_cons]
          exact ih (h.take htake) htakeAll

theorem Expecting.Follows.written {whole : Json} {input : List Token}
    (h : (Expecting.nothing whole).Follows room input) : Written room input := by
  cases h with
  | nothing whole h => exact h

/-- Tokens that are read as one value, with any containers around it and anything behind it, where
there is room for it. -/
def ReadsAs (room depth : Nat) (input : List Token) (value : Json) : Prop :=
  ∀ outer rest, outer.length + depth ≤ room →
    (Expecting.value outer).takeAll room (input ++ rest) = (deliver value outer).takeAll room rest

/-- No value starts with the end of an array. -/
theorem Written.exists_cons {depth : Nat} {input : List Token} (h : Written depth input) :
    ∃ token more, input = token :: more ∧ token ≠ .closeArray := by
  cases h with
  | scalar | text | array | object => exact ⟨_, _, rfl, Token.noConfusion⟩

/-- The first item of an array is read as any other one. -/
theorem takeAll_firstItem_of_written {depth : Nat} {input : List Token} (h : Written depth input)
    (outer : List Opened) (rest : List Token) :
    (Expecting.firstItem outer).takeAll room (input ++ rest) =
      (Expecting.value (.array [] :: outer)).takeAll room (input ++ rest) := by
  obtain ⟨token, more, rfl, htoken⟩ := h.exists_cons
  rw [List.cons_append, Expecting.takeAll, Expecting.takeAll, List.foldlM_cons,
    List.foldlM_cons, take_firstItem htoken, Expecting.take]

/-- Items behind others are read up to the end of their array. -/
theorem exists_takeAll_items {depth : Nat} {items : List (List Token)}
    (h : ∀ item ∈ items, ∃ value, ReadsAs room depth item value) (before : List Json) :
    ∃ value, ∀ outer rest, outer.length + depth < room →
      (Expecting.afterItem before outer).takeAll room
          (items.flatMap (.comma :: ·) ++ .closeArray :: rest) =
        (deliver value outer).takeAll room rest := by
  induction items generalizing before with
  | nil => exact ⟨.arr before.reverse, fun outer rest _ => takeAll_cons rfl rest⟩
  | cons item items ih =>
      obtain ⟨first, hfirst⟩ := h item List.mem_cons_self
      obtain ⟨value, hvalue⟩ :=
        ih (fun later hlater => h later (List.mem_cons_of_mem _ hlater)) (first :: before)
      refine ⟨value, fun outer rest hroom => ?_⟩
      have hroom' : (Opened.array before :: outer).length + depth ≤ room := by
        rw [List.length_cons]
        omega
      rw [List.flatMap_cons, List.cons_append, List.cons_append, takeAll_cons rfl,
        List.append_assoc, hfirst _ _ hroom', deliver, hvalue _ _ hroom]

/-- Fields behind others are read up to the end of their object. -/
theorem exists_takeAll_fields {depth : Nat} {fields : List (Text × List Token)}
    (h : ∀ field ∈ fields, ∃ value, ReadsAs room depth field.2 value)
    (known : List (Text × Json)) :
    ∃ value, ∀ outer rest, outer.length + depth < room →
      (Expecting.afterField known outer).takeAll room
          ((fields.map fieldTokens).flatMap (.comma :: ·) ++ .closeObject :: rest) =
        (deliver value outer).takeAll room rest := by
  induction fields generalizing known with
  | nil => exact ⟨.obj known, fun outer rest _ => takeAll_cons rfl rest⟩
  | cons field fields ih =>
      obtain ⟨first, hfirst⟩ := h field List.mem_cons_self
      obtain ⟨value, hvalue⟩ := ih (fun later hlater => h later (List.mem_cons_of_mem _ hlater))
        (OrderedMap.insert field.1 first known)
      refine ⟨value, fun outer rest hroom => ?_⟩
      have hroom' : (Opened.object known field.1 :: outer).length + depth ≤ room := by
        rw [List.length_cons]
        omega
      rw [List.map_cons, List.flatMap_cons]
      simp only [fieldTokens, List.append_assoc, List.cons_append]
      rw [takeAll_cons rfl, takeAll_cons rfl, takeAll_cons rfl, hfirst _ _ hroom', deliver,
        hvalue _ _ hroom]

theorem Written.exists_readsAs {depth : Nat} {input : List Token} (h : Written depth input) :
    ∃ value, ReadsAs room depth input value := by
  induction h with
  | scalar value => exact ⟨value, fun outer rest _ => takeAll_cons rfl rest⟩
  | text s => exact ⟨.str s, fun outer rest _ => takeAll_cons rfl rest⟩
  | @array depth items hitems ih =>
      cases items with
      | nil =>
          refine ⟨.arr [], fun outer rest hroom => ?_⟩
          exact (takeAll_cons (take_openArray (by omega)) _).trans (takeAll_cons rfl rest)
      | cons item items =>
          obtain ⟨first, hfirst⟩ := ih item List.mem_cons_self
          obtain ⟨value, hvalue⟩ := exists_takeAll_items
            (fun later hlater => ih later (List.mem_cons_of_mem _ hlater)) [first]
          refine ⟨value, fun outer rest hroom => ?_⟩
          have hroom' : (Opened.array [] :: outer).length + depth ≤ room := by
            rw [List.length_cons]
            omega
          rw [commaSeparated_cons, List.cons_append, takeAll_cons (take_openArray (by omega))]
          simp only [List.append_assoc, List.singleton_append]
          rw [takeAll_firstItem_of_written (hitems item List.mem_cons_self), hfirst _ _ hroom',
            deliver, hvalue _ _ (by omega)]
  | @object depth fields hfields ih =>
      cases fields with
      | nil =>
          refine ⟨.obj [], fun outer rest hroom => ?_⟩
          exact (takeAll_cons (take_openObject (by omega)) _).trans (takeAll_cons rfl rest)
      | cons field fields =>
          obtain ⟨first, hfirst⟩ := ih field List.mem_cons_self
          obtain ⟨value, hvalue⟩ := exists_takeAll_fields
            (fun later hlater => ih later (List.mem_cons_of_mem _ hlater)) [(field.1, first)]
          refine ⟨value, fun outer rest hroom => ?_⟩
          have hroom' : (Opened.object [] field.1 :: outer).length + depth ≤ room := by
            rw [List.length_cons]
            omega
          rw [List.map_cons, commaSeparated_cons, List.cons_append,
            takeAll_cons (take_openObject (by omega))]
          simp only [fieldTokens, List.append_assoc, List.cons_append, List.nil_append]
          rw [takeAll_cons rfl, takeAll_cons rfl, hfirst _ _ hroom', deliver, OrderedMap.insert,
            hvalue _ _ (by omega)]

/-- A text is read as a value exactly if it is JSON and there is room for its containers. -/
theorem exists_read_eq_ok_iff {text : Text} :
    (∃ value, read room text = .ok value) ↔ Grammatical room text := by
  rw [Grammatical, read, readChars]
  constructor
  · rintro ⟨value, hvalue⟩
    cases htakeAll : (Expecting.value []).takeAll room (tokens text.toList) with
    | error fault =>
        rw [htakeAll] at hvalue
        cases hvalue
    | ok final =>
        rw [htakeAll] at hvalue
        cases final with
        | nothing whole => exact ((Expecting.Follows.value .top).takeAll htakeAll).written
        | value | firstItem | firstKey | key | colon | afterItem | afterField => cases hvalue
  · intro h
    obtain ⟨value, hvalue⟩ : ∃ value, ReadsAs room room (tokens text.toList) value :=
      h.exists_readsAs
    have htakeAll := hvalue [] [] (by rw [List.length_nil, Nat.zero_add])
    rw [List.append_nil] at htakeAll
    rw [htakeAll]
    exact ⟨value, rfl⟩

theorem startValue_eq_or_tooDeep (room room' : Nat) (outer : List Opened) (token : Token) :
    startValue room outer token = startValue room' outer token ∨
      (∃ container, startValue room outer token = .error (.tooDeep container)) ∨
        ∃ container, startValue room' outer token = .error (.tooDeep container) := by
  cases token with
  | openArray | openObject =>
      simp only [startValue]
      by_cases hroom : outer.length < room
      · by_cases hroom' : outer.length < room'
        · simp [hroom, hroom']
        · simp [hroom']
      · simp [hroom]
  | closeArray | closeObject | comma | colon | scalar | text | oversized | junk => exact Or.inl rfl

/-- Readers with different room read on alike, unless one of them has no room left. -/
theorem take_eq_or_tooDeep (room room' : Nat) (expecting : Expecting) (token : Token) :
    expecting.take room token = expecting.take room' token ∨
      (∃ container, expecting.take room token = .error (.tooDeep container)) ∨
        ∃ container, expecting.take room' token = .error (.tooDeep container) := by
  cases expecting with
  | value outer => exact startValue_eq_or_tooDeep room room' outer token
  | firstItem outer =>
      by_cases hend : token = .closeArray
      · subst hend
        exact Or.inl rfl
      · rw [take_firstItem hend, take_firstItem hend]
        exact startValue_eq_or_tooDeep room room' _ token
  | firstKey | key | colon | afterItem | afterField | nothing => cases token <;> exact Or.inl rfl

theorem takeAll_eq_or_tooDeep (room room' : Nat) (expecting : Expecting) (input : List Token) :
    expecting.takeAll room input = expecting.takeAll room' input ∨
      (∃ container, expecting.takeAll room input = .error (.tooDeep container)) ∨
        ∃ container, expecting.takeAll room' input = .error (.tooDeep container) := by
  induction input generalizing expecting with
  | nil => exact Or.inl rfl
  | cons token input ih =>
      obtain hsame | ⟨container, hdeep⟩ | ⟨container, hdeep⟩ :=
        take_eq_or_tooDeep room room' expecting token
      · cases htake : expecting.take room' token with
        | ok next =>
            rw [takeAll_cons (hsame.trans htake), takeAll_cons htake]
            exact ih next
        | error fault =>
            rw [takeAll_cons_error (hsame.trans htake), takeAll_cons_error htake]
            exact Or.inl rfl
      · exact Or.inr (Or.inl ⟨container, takeAll_cons_error hdeep input⟩)
      · exact Or.inr (Or.inr ⟨container, takeAll_cons_error hdeep input⟩)

/-- A text that is found not to be JSON is none, however much room there is. -/
theorem not_grammatical_of_malformed {text : Text} (h : read room text = .error .malformed)
    (depth : Nat) : ¬Grammatical depth text := by
  intro hgrammatical
  obtain ⟨value, hvalue⟩ := exists_read_eq_ok_iff.mpr hgrammatical
  rw [read, readChars] at h hvalue
  obtain hsame | ⟨container, hdeep⟩ | ⟨container, hdeep⟩ :=
    takeAll_eq_or_tooDeep room depth (.value []) (tokens text.toList)
  · rw [hsame] at h
    cases h.symm.trans hvalue
  · rw [hdeep] at h
    cases h
  · rw [hdeep] at hvalue
    cases hvalue

end LanguageServer.Json
