/-
# Values that can be sent

A message is built from a value that can be printed and whose text has a form in UTF-8
(`Rpc.exists_build_iff`). Both can be told from the parts of the value (`Json.Sendable`):
no integer has too many digits, no string and no key holds half of a surrogate pair, and
the containers are nested only as far as there is room for them.
-/

import LanguageServer.Rpc.Dispatcher

namespace LanguageServer

namespace Json

/-- A value that can be sent where a number of containers may still be nested. -/
structure Sendable (room : Nat) (value : Json) : Prop where
  prints : value.printFault? room = none
  whole : value.render.holdsHalf = false

instance (room : Nat) (value : Json) : Decidable (value.Sendable room) :=
  decidable_of_iff (value.printFault? room = none ∧ value.render.holdsHalf = false)
    ⟨fun ⟨hprints, hwhole⟩ => ⟨hprints, hwhole⟩, fun h => ⟨h.prints, h.whole⟩⟩

theorem any_isHalf_ofChars (chars : List Char) :
    (Text.ofChars chars).any CodePoint.isHalf = false := by
  simp [Text.ofChars, CodePoint.isHalf]

/-- Escaping leaves a half as it is and brings none in. -/
theorem any_isHalf_escapeChar (c : CodePoint) :
    (escapeChar c).any CodePoint.isHalf = c.isHalf := by
  cases c with
  | char c =>
      rw [escapeChar]
      repeat' split
      all_goals rfl
  | half offset =>
      have hcontrol : ¬(CodePoint.half offset).toNat < 0x20 := by
        rw [CodePoint.toNat]
        omega
      simp [escapeChar, hcontrol]

theorem any_isHalf_quoted (s : Text) : (quoted s).any CodePoint.isHalf = s.holdsHalf := by
  simp only [quoted, List.any_cons, List.any_append, List.any_flatMap, any_isHalf_escapeChar,
    List.any_nil, CodePoint.isHalf, Bool.or_false, Bool.false_or]
  rfl

theorem any_isHalf_itemChars (items : List Json) :
    (itemChars items).any CodePoint.isHalf = items.any fun item => item.render.holdsHalf := by
  induction items with
  | nil => rfl
  | cons item items ih =>
      rw [itemChars, List.any_append, List.any_append, ih]
      rfl

theorem any_isHalf_fieldChars (fields : List (Text × Json)) :
    (fieldChars fields).any CodePoint.isHalf =
      fields.any fun field => field.1.holdsHalf || field.2.render.holdsHalf := by
  induction fields with
  | nil => rfl
  | cons field fields ih =>
      obtain ⟨key, value⟩ := field
      simp only [fieldChars, List.any_append, List.any_cons, List.any_nil, any_isHalf_quoted, ih,
        CodePoint.isHalf, Bool.or_false, Bool.false_or, Bool.or_assoc]
      rfl

theorem itemsFault?_eq_none_iff {room : Nat} {items : List Json} :
    itemsFault? room items = none ↔ ∀ item ∈ items, item.printFault? room = none := by
  induction items with
  | nil => simp [itemsFault?]
  | cons item items ih => rw [itemsFault?, Option.or_eq_none_iff, ih, List.forall_mem_cons]

theorem fieldsFault?_eq_none_iff {room : Nat} {fields : List (Text × Json)} :
    fieldsFault? room fields = none ↔ ∀ field ∈ fields, field.2.printFault? room = none := by
  induction fields with
  | nil => simp [fieldsFault?]
  | cons field fields ih => rw [fieldsFault?, Option.or_eq_none_iff, ih, List.forall_mem_cons]

namespace Sendable

variable {room : Nat}

@[simp]
theorem null : Sendable room .null := ⟨rfl, rfl⟩

@[simp]
theorem bool (b : Bool) : Sendable room (.bool b) := ⟨rfl, by cases b <;> rfl⟩

@[simp]
theorem float (x : Binary64) : Sendable room (.float x) :=
  ⟨rfl, any_isHalf_ofChars _⟩

@[simp]
theorem int_iff {n : Int} :
    Sendable room (.int n) ↔ (Decimal.digits n.natAbs).length ≤ Decimal.digitLimit := by
  have hprints : printFault? room (.int n) = none ↔
      (Decimal.digits n.natAbs).length ≤ Decimal.digitLimit := by
    simp [printFault?]
  exact ⟨fun h => hprints.mp h.prints, fun h => ⟨hprints.mpr h, any_isHalf_ofChars _⟩⟩

@[simp]
theorem str_iff {s : Text} : Sendable room (.str s) ↔ s.holdsHalf = false := by
  have hwhole : (Json.str s).render.holdsHalf = s.holdsHalf := any_isHalf_quoted s
  exact ⟨fun h => hwhole ▸ h.whole, fun h => ⟨rfl, hwhole ▸ h⟩⟩

@[simp]
theorem arr_iff {items : List Json} :
    Sendable room (.arr items) ↔ 0 < room ∧ ∀ item ∈ items, Sendable (room - 1) item := by
  have hwhole : (Json.arr items).render.holdsHalf =
      items.any fun item => item.render.holdsHalf := by
    cases items with
    | nil => rfl
    | cons item items =>
        rw [List.any_cons, ← any_isHalf_itemChars, Text.holdsHalf, Text.holdsHalf,
          ← List.any_append]
        rfl
  have hprints : (Json.arr items).printFault? room = none ↔
      0 < room ∧ ∀ item ∈ items, item.printFault? (room - 1) = none := by
    rw [printFault?, ← itemsFault?_eq_none_iff]
    by_cases hroom : room = 0
    · simp [hroom]
    · simp [hroom, Nat.pos_iff_ne_zero]
  constructor
  · rintro ⟨hprints', hwhole'⟩
    obtain ⟨hroom, hitems⟩ := hprints.mp hprints'
    rw [hwhole, List.any_eq_false] at hwhole'
    exact ⟨hroom, fun item hitem => ⟨hitems item hitem, eq_false_of_ne_true (hwhole' item hitem)⟩⟩
  · rintro ⟨hroom, hitems⟩
    refine ⟨hprints.mpr ⟨hroom, fun item hitem => (hitems item hitem).prints⟩, ?_⟩
    rw [hwhole, List.any_eq_false]
    exact fun item hitem => ne_true_of_eq_false (hitems item hitem).whole

@[simp]
theorem obj_iff {fields : List (Text × Json)} :
    Sendable room (.obj fields) ↔ 0 < room ∧
      ∀ field ∈ fields, field.1.holdsHalf = false ∧ Sendable (room - 1) field.2 := by
  have hwhole : (Json.obj fields).render.holdsHalf =
      fields.any fun field => field.1.holdsHalf || field.2.render.holdsHalf := by
    cases fields with
    | nil => rfl
    | cons field fields =>
        obtain ⟨key, value⟩ := field
        rw [List.any_cons, ← any_isHalf_fieldChars, ← any_isHalf_quoted key, Text.holdsHalf, render,
          chars, List.any_cons, List.any_append, List.any_append, List.any_append]
        simp [CodePoint.isHalf, Text.holdsHalf, render]
  have hprints : (Json.obj fields).printFault? room = none ↔
      0 < room ∧ ∀ field ∈ fields, field.2.printFault? (room - 1) = none := by
    rw [printFault?, ← fieldsFault?_eq_none_iff]
    by_cases hroom : room = 0
    · simp [hroom]
    · simp [hroom, Nat.pos_iff_ne_zero]
  constructor
  · rintro ⟨hprints', hwhole'⟩
    obtain ⟨hroom, hfields⟩ := hprints.mp hprints'
    rw [hwhole, List.any_eq_false] at hwhole'
    refine ⟨hroom, fun field hfield => ?_⟩
    obtain ⟨hkey, hvalue⟩ := Bool.or_eq_false_iff.mp (eq_false_of_ne_true (hwhole' field hfield))
    exact ⟨hkey, hfields field hfield, hvalue⟩
  · rintro ⟨hroom, hfields⟩
    refine ⟨hprints.mpr ⟨hroom, fun field hfield => (hfields field hfield).2.prints⟩, ?_⟩
    rw [hwhole, List.any_eq_false]
    intro field hfield
    obtain ⟨hkey, hvalue⟩ := hfields field hfield
    rw [hkey, hvalue.whole]
    exact Bool.false_ne_true

end Sendable

end Json

namespace Rpc

/-- An id that can be sent. -/
def Id.Sendable : Id → Prop
  | .int n => (Decimal.digits n.natAbs).length ≤ Decimal.digitLimit
  | .float _ => True
  | .str s => s.holdsHalf = false

instance : DecidablePred Id.Sendable
  | .int n => inferInstanceAs (Decidable ((Decimal.digits n.natAbs).length ≤ Decimal.digitLimit))
  | .float _ => inferInstanceAs (Decidable True)
  | .str s => inferInstanceAs (Decidable (s.holdsHalf = false))

@[simp]
theorem Id.sendable_toJson_iff {id : Id} {room : Nat} :
    id.toJson.Sendable room ↔ id.Sendable := by
  cases id <;> simp [toJson, Id.Sendable]

@[simp]
theorem holdsHalf_version : version.holdsHalf = false := Text.holdsHalf_ofString _

variable [NestingLimits]

/-- A failure that can be sent. -/
structure Failure.Sendable (failure : Failure) : Prop where
  code : (Decimal.digits failure.code.natAbs).length ≤ Decimal.digitLimit
  message : failure.message.holdsHalf = false
  data : failure.data.Sendable (NestingLimits.writing - 2)

/-- A failure without data can be sent unless there is a half in its message. -/
@[simp]
theorem ErrorCode.sendable_failure_iff {code : ErrorCode} {message : Text} :
    (code.failure message).Sendable ↔ message.holdsHalf = false := by
  have hcode : (Decimal.digits code.toInt.natAbs).length ≤ Decimal.digitLimit := by
    cases code <;> decide
  exact ⟨Failure.Sendable.message, fun h => ⟨hcode, h, .null⟩⟩

/-- A value can be built exactly if it can be sent. -/
theorem exists_build_eq_ok_iff {value : Json} :
    (∃ packet, build value = .ok packet) ↔ value.Sendable NestingLimits.writing :=
  exists_build_iff.trans ⟨fun ⟨hprints, hwhole⟩ => ⟨hprints, hwhole⟩,
    fun h => ⟨h.prints, h.whole⟩⟩

/-- Replying with a value fails exactly if it cannot be sent. -/
theorem Answer.raised?_ofValue_eq_none_iff {value : Json} :
    (ofValue value).raised? = none ↔ value.Sendable NestingLimits.writing := by
  rw [← exists_build_eq_ok_iff, ofValue]
  cases build value <;> simp [raised?]

/-- A reply with a value holds this value. -/
theorem Answer.value_ofValue {value reply : Json} :
    (ofValue value).packet?.map Packet.value = some reply ↔
      value.Sendable NestingLimits.writing ∧ reply = value := by
  rw [← exists_build_eq_ok_iff, ofValue]
  cases hbuild : build value with
  | error fault => simp [packet?]
  | ok packet => simp [packet?, value_of_build hbuild, eq_comm]

theorem sendable_success_iff {id : Id} {result : Json} :
    (success id.toJson result).Sendable NestingLimits.writing ↔
      id.Sendable ∧ result.Sendable (NestingLimits.writing - 1) := by
  have henough : 8 ≤ NestingLimits.writing := NestingLimits.enough
  have hroom : 0 < NestingLimits.writing := by omega
  simp [success, hroom]

/-- A refusal can be sent if both the id, if there is one, and the failure can. -/
theorem sendable_refusal_iff {id : Option Id} {failure : Failure} :
    (refusal (Id.orNull id) failure).Sendable NestingLimits.writing ↔
      (∀ known ∈ id, known.Sendable) ∧ failure.Sendable := by
  have henough : 8 ≤ NestingLimits.writing := NestingLimits.enough
  have hroom : 0 < NestingLimits.writing := by omega
  have hroom' : 0 < NestingLimits.writing - 1 := by omega
  have hfailure : failure.Sendable ↔
      (Decimal.digits failure.code.natAbs).length ≤ Decimal.digitLimit ∧
        failure.message.holdsHalf = false ∧ failure.data.Sendable (NestingLimits.writing - 2) :=
    ⟨fun h => ⟨h.code, h.message, h.data⟩, fun ⟨hcode, hmessage, hdata⟩ => ⟨hcode, hmessage, hdata⟩⟩
  rw [hfailure]
  cases id <;>
    simp [refusal, errorReply, Failure.toJson, errorObject, Id.orNull, hroom, hroom', Nat.sub_sub]

/-- A refusal that does not name a request can be sent unless there is a half in its message. -/
theorem sendable_refusal_null {code : ErrorCode} {message : Text}
    (h : message.holdsHalf = false) :
    (refusal .null (code.failure message)).Sendable NestingLimits.writing :=
  (@sendable_refusal_iff _ none _).mpr
    ⟨by simp, ErrorCode.sendable_failure_iff.mpr h⟩

end Rpc

end LanguageServer
