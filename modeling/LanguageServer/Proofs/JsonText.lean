/-
# Printed values are read back

A value without double precision numbers, whose integers are not too long, whose strings
hold no halves of surrogate pairs and whose objects have distinct keys (`Json.Plain`), can be
sent and is read back from its text. Where a value may start, the reader does with the text
of a plain value, and whatever follows it, what it does with the value alone
(`Json.ReadsBack`). What may follow is left open, and this is what the induction over the
value needs: the text of an array continues after each of its items.
-/

import LanguageServer.Json.Reader
import LanguageServer.Proofs.JsonToken
import LanguageServer.Proofs.Sendable

namespace LanguageServer.Json

/-- A value that can be sent and that its text gives back, with at most the given number of
containers within each other. -/
inductive Plain : Nat → Json → Prop
  | null {depth : Nat} : Plain depth .null
  | bool {depth : Nat} (b : Bool) : Plain depth (.bool b)
  | int {depth : Nat} {n : Int} (h : (Decimal.digits n.natAbs).length ≤ Decimal.digitLimit) :
      Plain depth (.int n)
  | str {depth : Nat} {s : Text} (h : s.holdsHalf = false) : Plain depth (.str s)
  | arr {depth : Nat} {items : List Json} (hitems : ∀ item ∈ items, Plain depth item) :
      Plain (depth + 1) (.arr items)
  | obj {depth : Nat} {fields : List (Text × Json)} (hdistinct : (fields.map Prod.fst).Nodup)
      (hkeys : ∀ field ∈ fields, field.1.holdsHalf = false)
      (hfields : ∀ field ∈ fields, Plain depth field.2) : Plain (depth + 1) (.obj fields)

namespace Plain

variable {depth : Nat}

@[simp]
theorem null_plain : Plain depth .null := .null

@[simp]
theorem bool_plain (b : Bool) : Plain depth (.bool b) := .bool b

@[simp]
theorem str_iff {s : Text} : Plain depth (.str s) ↔ s.holdsHalf = false := by
  constructor
  · rintro ⟨⟩
    assumption
  · exact .str

@[simp]
theorem int_iff {n : Int} :
    Plain depth (.int n) ↔ (Decimal.digits n.natAbs).length ≤ Decimal.digitLimit := by
  constructor
  · rintro ⟨⟩
    assumption
  · exact .int

@[simp]
theorem arr_iff {items : List Json} :
    Plain (depth + 1) (.arr items) ↔ ∀ item ∈ items, Plain depth item := by
  constructor
  · rintro ⟨⟩
    assumption
  · exact .arr

@[simp]
theorem obj_iff {fields : List (Text × Json)} :
    Plain (depth + 1) (.obj fields) ↔ (fields.map Prod.fst).Nodup ∧
      ∀ field ∈ fields, field.1.holdsHalf = false ∧ Plain depth field.2 := by
  constructor
  · intro h
    cases h with
    | obj hdistinct hkeys hfields =>
        exact ⟨hdistinct, fun field hfield => ⟨hkeys field hfield, hfields field hfield⟩⟩
  · rintro ⟨hdistinct, hfields⟩
    exact .obj hdistinct (fun field hfield => (hfields field hfield).1)
      fun field hfield => (hfields field hfield).2

/-- A plain value can be sent where there is room for all of its containers. -/
theorem sendable {value : Json} (h : Plain depth value) {room : Nat} (hroom : depth ≤ room) :
    Sendable room value := by
  induction h generalizing room with
  | null => exact .null
  | bool b => exact .bool b
  | int h => exact Sendable.int_iff.mpr h
  | str h => exact Sendable.str_iff.mpr h
  | arr hitems ih =>
      exact Sendable.arr_iff.mpr ⟨by omega, fun item hitem => ih item hitem (by omega)⟩
  | obj hdistinct hkeys hfields ih =>
      exact Sendable.obj_iff.mpr
        ⟨by omega, fun field hfield => ⟨hkeys field hfield, ih field hfield (by omega)⟩⟩

end Plain

variable {room depth : Nat}

theorem takeAll_cons {start next : Expecting} {token : Token} (h : start.take room token = .ok next)
    (input : List Token) : start.takeAll room (token :: input) = next.takeAll room input := by
  rw [Expecting.takeAll, List.foldlM_cons, h]
  rfl

theorem takeAll_cons_error {start : Expecting} {token : Token} {fault : ReadFault}
    (h : start.take room token = .error fault) (input : List Token) :
    start.takeAll room (token :: input) = .error fault := by
  rw [Expecting.takeAll, List.foldlM_cons, h]
  rfl

theorem take_openArray {outer : List Opened} (h : outer.length < room) :
    (Expecting.value outer).take room .openArray = .ok (.firstItem outer) := by
  rw [Expecting.take, startValue, if_pos h]

theorem take_openObject {outer : List Opened} (h : outer.length < room) :
    (Expecting.value outer).take room .openObject = .ok (.firstKey outer) := by
  rw [Expecting.take, startValue, if_pos h]

/-- Where the first item of an array may start, any token but the end of the array is taken as
where any item may. -/
theorem take_firstItem {token : Token} (h : token ≠ .closeArray) (outer : List Opened) :
    (Expecting.firstItem outer).take room token = startValue room (.array [] :: outer) token := by
  cases token with
  | closeArray => exact absurd rfl h
  | openArray | openObject | closeObject | comma | colon | scalar | text | oversized | junk => rfl

/-- Where the first item of an array may start, its text is read as where any item may. -/
theorem takeAll_firstItem {c : CodePoint} (hseparator : isSeparator c = false) (hend : c ≠ ']')
    (outer : List Opened) (rest : List CodePoint) :
    (Expecting.firstItem outer).takeAll room (tokens (c :: rest)) =
      (Expecting.value (.array [] :: outer)).takeAll room (tokens (c :: rest)) := by
  rw [tokens_cons hseparator, Expecting.takeAll, Expecting.takeAll, List.foldlM_cons,
    List.foldlM_cons, take_firstItem (nextToken_ne_closeArray hend rest), Expecting.take]

/-- The text of a value starts neither with a blank nor with the end of an array. -/
theorem exists_chars {value : Json} (h : value.Plain depth) :
    ∃ c word, value.chars = c :: word ∧ isSeparator c = false ∧ c ≠ ']' := by
  cases h with
  | null => exact ⟨.char 'n', _, rfl, rfl, by decide⟩
  | bool b => cases b <;> exact ⟨_, _, rfl, rfl, by decide⟩
  | @int depth n h =>
      obtain ⟨c, word, hint, hseparator, hmark⟩ := exists_ofInt n
      refine ⟨.char c, Text.ofChars word, congrArg Text.ofChars hint, hseparator, ?_⟩
      rintro hend
      rw [hend] at hmark
      cases hmark
  | str h => exact ⟨.char '"', _, rfl, rfl, by decide⟩
  | @arr depth items hitems => cases items <;> exact ⟨.char '[', _, rfl, rfl, by decide⟩
  | @obj depth fields hdistinct hkeys hfields =>
      cases fields with
      | nil => exact ⟨.char '\x7b', _, rfl, rfl, by decide⟩
      | cons field fields => exact ⟨.char '\x7b', _, rfl, rfl, by decide⟩

/-- After a key and its colon the value of the field comes. -/
theorem takeAll_colon (fields : List (Text × Json)) (key : Text) (outer : List Opened)
    (rest : List CodePoint) :
    (Expecting.colon fields key outer).takeAll room (tokens (.char ':' :: .char ' ' :: rest)) =
      (Expecting.value (.object fields key :: outer)).takeAll room (tokens rest) := by
  rw [tokens_colon, takeAll_cons rfl, tokens_space]

/-- The first field of an object. -/
theorem takeAll_firstField {outer : List Opened} (h : outer.length < room) (key : Text)
    (value : Json) (fields : List (Text × Json)) (rest : List CodePoint) :
    (Expecting.value outer).takeAll room
        (tokens ((Json.obj ((key, value) :: fields)).chars ++ rest)) =
      (Expecting.value (.object [] key :: outer)).takeAll room
        (tokens (value.chars ++ (fieldChars fields ++ rest))) := by
  simp only [chars, List.cons_append, List.append_assoc, List.nil_append]
  rw [tokens_openObject, takeAll_cons (take_openObject h), tokens_quoted, takeAll_cons rfl,
    takeAll_colon]

/-- A field after others. -/
theorem takeAll_nextField (before : List (Text × Json)) (key : Text) (value : Json)
    (fields : List (Text × Json)) (outer : List Opened) (rest : List CodePoint) :
    (Expecting.afterField before outer).takeAll room
        (tokens (fieldChars ((key, value) :: fields) ++ rest)) =
      (Expecting.value (.object before key :: outer)).takeAll room
        (tokens (value.chars ++ (fieldChars fields ++ rest))) := by
  simp only [fieldChars, List.cons_append, List.append_assoc, List.nil_append]
  rw [tokens_comma, takeAll_cons rfl, tokens_space, tokens_quoted, takeAll_cons rfl, takeAll_colon]

theorem endsValue_fieldChars (fields : List (Text × Json)) (rest : List CodePoint) :
    EndsValue (fieldChars fields ++ rest) := by
  cases fields with
  | nil => exact endsValue_cons (Or.inr (Or.inr rfl)) _
  | cons field fields => exact endsValue_cons (Or.inl rfl) _

theorem endsValue_itemChars (items : List Json) (rest : List CodePoint) :
    EndsValue (itemChars items ++ rest) := by
  cases items with
  | nil => exact endsValue_cons (Or.inr (Or.inl rfl)) _
  | cons item items => exact endsValue_cons (Or.inl rfl) _

/-- The text of a value, with anything after it, is read as the value itself where there is
room for its containers. -/
def ReadsBack (room depth : Nat) (value : Json) : Prop :=
  ∀ outer rest, outer.length + depth ≤ room → EndsValue rest →
    (Expecting.value outer).takeAll room (tokens (value.chars ++ rest)) =
      (deliver value outer).takeAll room (tokens rest)

/-- Items after others are read up to the end of their array. -/
theorem takeAll_itemChars {items : List Json} (h : ∀ item ∈ items, ReadsBack room depth item)
    (before : List Json) {outer : List Opened} (hroom : outer.length + depth < room)
    (rest : List CodePoint) :
    (Expecting.afterItem before outer).takeAll room (tokens (itemChars items ++ rest)) =
      (deliver (.arr (before.reverse ++ items)) outer).takeAll room (tokens rest) := by
  induction items generalizing before with
  | nil =>
      rw [itemChars, List.singleton_append, tokens_closeArray, takeAll_cons rfl, List.append_nil]
  | cons item items ih =>
      have hitem : ReadsBack room depth item := h item List.mem_cons_self
      have hroom' : (Opened.array before :: outer).length + depth ≤ room := by
        rw [List.length_cons]
        omega
      simp only [itemChars, List.cons_append, List.append_assoc, List.nil_append]
      rw [tokens_comma, takeAll_cons rfl, tokens_space,
        hitem _ _ hroom' (endsValue_itemChars items rest), deliver,
        ih fun item hitem => h item (List.mem_cons_of_mem _ hitem), List.reverse_cons,
        List.append_assoc, List.singleton_append]

/-- Fields after others are read up to the end of their object. Their keys have to be new:
a key that is known would replace the value of an earlier field. -/
theorem takeAll_fieldChars {fields : List (Text × Json)}
    (h : ∀ field ∈ fields, ReadsBack room depth field.2) (before : List (Text × Json))
    (hdistinct : ((before ++ fields).map Prod.fst).Nodup) {outer : List Opened}
    (hroom : outer.length + depth < room) (rest : List CodePoint) :
    (Expecting.afterField before outer).takeAll room (tokens (fieldChars fields ++ rest)) =
      (deliver (.obj (before ++ fields)) outer).takeAll room (tokens rest) := by
  induction fields generalizing before with
  | nil =>
      rw [fieldChars, List.singleton_append, tokens_closeObject, takeAll_cons rfl, List.append_nil]
  | cons field fields ih =>
      obtain ⟨key, value⟩ := field
      have hvalue : ReadsBack room depth value := h (key, value) List.mem_cons_self
      have hnew : key ∉ before.map Prod.fst := by
        rw [List.map_append, List.nodup_append] at hdistinct
        intro hknown
        exact hdistinct.2.2 key hknown key List.mem_cons_self rfl
      have hdistinct' : (((before ++ [(key, value)]) ++ fields).map Prod.fst).Nodup := by
        rwa [List.append_assoc, List.singleton_append]
      have hroom' : (Opened.object before key :: outer).length + depth ≤ room := by
        rw [List.length_cons]
        omega
      rw [takeAll_nextField, hvalue _ _ hroom' (endsValue_fieldChars fields rest), deliver,
        OrderedMap.insert_of_not_mem hnew,
        ih (fun field hfield => h field (List.mem_cons_of_mem _ hfield)) _ hdistinct',
        List.append_assoc, List.singleton_append]

theorem readsBack_scalar {value : Json}
    (h : ∀ rest, EndsValue rest → tokens (value.chars ++ rest) = .scalar value :: tokens rest) :
    ReadsBack room depth value := by
  intro outer rest _ hrest
  rw [h rest hrest, takeAll_cons rfl]

theorem readsBack_str (s : Text) : ReadsBack room depth (.str s) := by
  intro outer rest _ _
  rw [chars, tokens_quoted, takeAll_cons rfl]

theorem readsBack_int {n : Int} (h : (Decimal.digits n.natAbs).length ≤ Decimal.digitLimit) :
    ReadsBack room depth (.int n) := by
  refine readsBack_scalar fun rest hrest => ?_
  rw [tokens_int hrest, intToken, if_neg (Nat.not_lt.mpr h)]

theorem readsBack_arr {items : List Json} (hplain : ∀ item ∈ items, Plain depth item)
    (h : ∀ item ∈ items, ReadsBack room depth item) : ReadsBack room (depth + 1) (.arr items) := by
  intro outer rest hroom _
  have hopen : (Expecting.value outer).take room .openArray = .ok (.firstItem outer) :=
    take_openArray (by omega)
  cases items with
  | nil =>
      simp only [chars, List.cons_append, List.nil_append]
      rw [tokens_openArray, takeAll_cons hopen, tokens_closeArray, takeAll_cons rfl]
  | cons item items =>
      have hitem : ReadsBack room depth item := h item List.mem_cons_self
      obtain ⟨c, word, hword, hseparator, hend⟩ := exists_chars (hplain item List.mem_cons_self)
      have hfirst : (Expecting.firstItem outer).takeAll room
            (tokens (item.chars ++ (itemChars items ++ rest))) =
          (Expecting.value (.array [] :: outer)).takeAll room
            (tokens (item.chars ++ (itemChars items ++ rest))) := by
        rw [hword]
        exact takeAll_firstItem hseparator hend outer _
      have hroom' : (Opened.array [] :: outer).length + depth ≤ room := by
        rw [List.length_cons]
        omega
      simp only [chars, List.cons_append, List.append_assoc]
      rw [tokens_openArray, takeAll_cons hopen, hfirst,
        hitem _ _ hroom' (endsValue_itemChars items rest), deliver,
        takeAll_itemChars (fun item hitem => h item (List.mem_cons_of_mem _ hitem)) _ (by omega)]
      rfl

theorem readsBack_obj {fields : List (Text × Json)} (hdistinct : (fields.map Prod.fst).Nodup)
    (h : ∀ field ∈ fields, ReadsBack room depth field.2) :
    ReadsBack room (depth + 1) (.obj fields) := by
  intro outer rest hroom _
  have hopen : outer.length < room := by omega
  cases fields with
  | nil =>
      simp only [chars, List.cons_append, List.nil_append]
      rw [tokens_openObject, takeAll_cons (take_openObject hopen), tokens_closeObject,
        takeAll_cons rfl]
  | cons field fields =>
      obtain ⟨key, value⟩ := field
      have hvalue : ReadsBack room depth value := h (key, value) List.mem_cons_self
      have hroom' : (Opened.object [] key :: outer).length + depth ≤ room := by
        rw [List.length_cons]
        omega
      rw [takeAll_firstField hopen, hvalue _ _ hroom' (endsValue_fieldChars fields rest), deliver,
        OrderedMap.insert]
      exact takeAll_fieldChars (fun field hfield => h field (List.mem_cons_of_mem _ hfield))
        [(key, value)] hdistinct (by omega) rest

theorem Plain.readsBack {value : Json} (h : value.Plain depth) : ReadsBack room depth value := by
  induction h with
  | null => exact readsBack_scalar fun rest _ => tokens_null rest
  | bool b => exact readsBack_scalar fun rest _ => tokens_bool b rest
  | int h => exact readsBack_int h
  | str h => exact readsBack_str _
  | arr hitems ih => exact readsBack_arr hitems ih
  | obj hdistinct _ _ ih => exact readsBack_obj hdistinct ih

/-- What the reader does with the tokens of a text. -/
theorem read_of_tokens {text : Text} {input : List Token} {value : Json}
    (htokens : tokens text.toList = input)
    (htakeAll : (Expecting.value []).takeAll room input = .ok (.nothing value)) :
    read room text = .ok value := by
  rw [read, readChars, htokens, htakeAll]

/-- The text of a plain value is read as that value where there is room for all of its
containers. -/
theorem read_render {value : Json} (h : value.Plain depth) (hroom : depth ≤ room) :
    read room value.render = .ok value := by
  have htakeAll : (Expecting.value []).takeAll room (tokens value.chars) =
      .ok (.nothing value) := by
    have hroom' : ([] : List Opened).length + depth ≤ room := by rwa [List.length_nil, Nat.zero_add]
    have hback := h.readsBack [] [] hroom' endsValue_nil
    rw [List.append_nil] at hback
    rw [hback, tokens_nil]
    rfl
  exact read_of_tokens rfl htakeAll

end LanguageServer.Json
