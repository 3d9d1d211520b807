/-
# Messages

A JSON value as a message between peers. A request has an id, which is a string
or a number, and a notification has none; a response has a result or an error
and no method. Every other value is invalid for one stated reason, and keeps
its id if it has a proper one, so that the peer can be told.
-/

import LanguageServer.Decimal.Shortest
import LanguageServer.Json.Reader
import LanguageServer.Rpc.Packet

namespace LanguageServer.Rpc

/-- The version that every message names. -/
def version : Text := "2.0"

/-- What a request is known by. -/
inductive Id
  | int (n : Int)
  | float (x : Binary64)
  | str (s : Text)
  deriving DecidableEq, Repr

namespace Id

/-- The id that a value is; booleans and null are none. -/
def ofJson? : Json → Option Id
  | .int n => some (.int n)
  | .float x => some (.float x)
  | .str s => some (.str s)
  | _ => none

/-- The value of an id. -/
def toJson : Id → Json
  | .int n => .int n
  | .float x => .float x
  | .str s => .str s

/-- The value of an id that may be unknown. -/
def orNull : Option Id → Json
  | none => .null
  | some id => id.toJson

/-- Numbers look in the log as in JSON, but for the special values. -/
def numberStyle : Decimal.Style where
  positionalFrom := -4
  positionalBelow := 16
  exponentDigits := 2
  nan := ['n', 'a', 'n']
  infinity := ['i', 'n', 'f']

/-- An id in the log; a string stands there without quotes. -/
def display : Option Id → Text
  | none => "None"
  | some (.int n) => ⟨Text.ofChars (Decimal.ofInt n)⟩
  | some (.float x) => ⟨Text.ofChars (numberStyle.render x)⟩
  | some (.str s) => s

end Id

/-- Why a value is no message. -/
inductive Defect
  | notAnObject
  | wrongVersion
  | methodNotAString
  | idNotStringOrNumber
  | missingMethod
  deriving DecidableEq, Repr

/-- The wording of a defect. -/
def Defect.message : Defect → String
  | .notAnObject => "Message is not a JSON object"
  | .wrongVersion => "Missing or unsupported jsonrpc version"
  | .methodNotAString => "Method must be a string"
  | .idNotStringOrNumber => "Request id must be a string or a number"
  | .missingMethod => "Missing method field"

/-- A message, or a value that is none. Parameters are an object or an array,
or are left out. -/
inductive Message
  | request (id : Id) (method : Text) (params : Option Json)
  | notification (method : Text) (params : Option Json)
  | response (id : Option Id) (result : Json) (error : Option Json)
  | invalid (defect : Defect) (id : Option Id)
  deriving Repr

/-- Why a body has no value. -/
inductive BodyFault
  | oversized (fault : Decimal.Oversized)
  | tooDeep (container : Json.Container)
  deriving DecidableEq, Repr

/-- The wording of a fault. -/
def BodyFault.message : BodyFault → String
  | .oversized fault => fault.message
  | .tooDeep .array =>
      "maximum recursion depth exceeded while decoding a JSON array from a unicode string"
  | .tooDeep .object =>
      "maximum recursion depth exceeded while decoding a JSON object from a unicode string"

namespace Message

/-- The method that an object names. -/
def method? (value : Json) : Option Text :=
  value.string? "method"

/-- The parameters of an object, if they are an object or an array. -/
def params? (value : Json) : Option Json :=
  (value.field? "params").bind Json.asStructured?

/-- The message that an object is. -/
def ofFields (value : Json) : Message :=
  let id := (value.field? "id").bind Id.ofJson?
  if (value.string? "jsonrpc") ≠ some version then .invalid .wrongVersion id
  else if (value.field? "method").isSome then
    match method? value with
    | none => .invalid .methodNotAString id
    | some method =>
        if (value.field? "id").isNone then .notification method (params? value)
        else
          match id with
          | none => .invalid .idNotStringOrNumber none
          | some id => .request id method (params? value)
  else if (value.field? "result").isSome || (value.field? "error").isSome then
    .response id (Json.orNull (value.field? "result")) (value.object? "error")
  else .invalid .missingMethod id

/-- The message that a value is. -/
def classify (value : Json) : Message :=
  match value with
  | .obj fields => ofFields (.obj fields)
  | _ => .invalid .notAnObject none

/-- The value of a body. A body that is not JSON has the value null, as has the body
`null`; a body with an integer of too many digits has none, nor has one that is nested too
deeply. -/
def readBody [NestingLimits] (content : Text) : Except BodyFault Json :=
  match Json.read NestingLimits.reading content with
  | .ok value => .ok value
  | .error .malformed => .ok .null
  | .error (.oversized fault) => .error (.oversized fault)
  | .error (.tooDeep container) => .error (.tooDeep container)

theorem readBody_of_read [NestingLimits] {content : Text} {value : Json}
    (h : Json.read NestingLimits.reading content = .ok value) : readBody content = .ok value := by
  rw [readBody, h]

end Message

end LanguageServer.Rpc
