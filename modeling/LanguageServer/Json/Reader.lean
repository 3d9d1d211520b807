/-
# Reading JSON

The second half of reading: the tokens of a text are taken one after the other
by a machine that knows what may come next and which arrays and objects are
still open. A text is accepted when the machine has a whole value after its last
token. `Json.Printer` writes texts that are read back as the value printed.

The containers that are open at the same time must not be more than there is `room` for
calls within calls.
-/

import LanguageServer.Json.Token
import LanguageServer.OrderedMap

namespace LanguageServer.Json

/-- The values that hold other values. -/
inductive Container
  | array
  | object
  deriving DecidableEq, Repr

/-- Why a text is no value: it does not follow the grammar, it holds an integer with too
many digits, or a container in it is nested too deeply. -/
inductive ReadFault
  | malformed
  | oversized (fault : Decimal.Oversized)
  | tooDeep (container : Container)
  deriving DecidableEq, Repr

/-- A container that waits for a value: an array with the items before it, the
latest first, or an object with the fields before it and the key of the value. -/
inductive Opened
  | array (items : List Json)
  | object (fields : List (Text × Json)) (key : Text)
  deriving Repr

/-- What may come next. The containers still open are listed innermost first. -/
inductive Expecting
  /-- A value. -/
  | value (outer : List Opened)
  /-- A value, or the end of an array without items. -/
  | firstItem (outer : List Opened)
  /-- A key, or the end of an object without fields. -/
  | firstKey (outer : List Opened)
  /-- A key. -/
  | key (fields : List (Text × Json)) (outer : List Opened)
  /-- The colon after a key. -/
  | colon (fields : List (Text × Json)) (key : Text) (outer : List Opened)
  /-- A comma, or the end of an array; its items are listed latest first. -/
  | afterItem (items : List Json) (outer : List Opened)
  /-- A comma, or the end of an object. -/
  | afterField (fields : List (Text × Json)) (outer : List Opened)
  /-- Nothing: the value is complete. -/
  | nothing (value : Json)
  deriving Repr

/-- Hands a complete value to the container that waits for it. -/
def deliver (value : Json) : List Opened → Expecting
  | [] => .nothing value
  | .array items :: outer => .afterItem (value :: items) outer
  | .object fields key :: outer => .afterField (OrderedMap.insert key value fields) outer

variable (room : Nat)

/-- Takes a token where a value may start. -/
def startValue (outer : List Opened) : Token → Except ReadFault Expecting
  | .scalar value => .ok (deliver value outer)
  | .text s => .ok (deliver (.str s) outer)
  | .openArray => if outer.length < room then .ok (.firstItem outer) else .error (.tooDeep .array)
  | .openObject => if outer.length < room then .ok (.firstKey outer) else .error (.tooDeep .object)
  | .oversized fault => .error (.oversized fault)
  | _ => .error .malformed

/-- Takes one token. -/
def Expecting.take : Expecting → Token → Except ReadFault Expecting
  | .value outer, token => startValue room outer token
  | .firstItem outer, .closeArray => .ok (deliver (.arr []) outer)
  | .firstItem outer, token => startValue room (.array [] :: outer) token
  | .firstKey outer, .closeObject => .ok (deliver (.obj []) outer)
  | .firstKey outer, .text label => .ok (.colon [] label outer)
  | .key fields outer, .text label => .ok (.colon fields label outer)
  | .colon fields label outer, .colon => .ok (.value (.object fields label :: outer))
  | .afterItem items outer, .comma => .ok (.value (.array items :: outer))
  | .afterItem items outer, .closeArray => .ok (deliver (.arr items.reverse) outer)
  | .afterField fields outer, .comma => .ok (.key fields outer)
  | .afterField fields outer, .closeObject => .ok (deliver (.obj fields) outer)
  | _, _ => .error .malformed

/-- Takes the tokens of a text in order. -/
def Expecting.takeAll (start : Expecting) (input : List Token) : Except ReadFault Expecting :=
  input.foldlM (Expecting.take room) start

/-- The value of a text. -/
def readChars (text : List CodePoint) : Except ReadFault Json :=
  match Expecting.takeAll room (.value []) (tokens text) with
  | .error fault => .error fault
  | .ok (.nothing value) => .ok value
  | .ok _ => .error .malformed

/-- The value of a text. -/
def read (text : Text) : Except ReadFault Json :=
  readChars room text.toList

end LanguageServer.Json
