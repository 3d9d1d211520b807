/-
# JSON values

The values that messages carry. Integers are of any size and apart from double
precision numbers, because a position is an integer and `1.0` is none. An
object keeps its fields in the order of their first appearance (`OrderedMap`).
-/

import LanguageServer.Decimal.Binary64
import LanguageServer.Text.CodePoint

namespace LanguageServer

/-- A JSON value. -/
inductive Json
  | null
  | bool (b : Bool)
  | int (n : Int)
  | float (x : Binary64)
  | str (s : Text)
  | arr (items : List Json)
  | obj (fields : List (Text × Json))
  deriving Repr, Inhabited

namespace Json

/-- The value of a field of an object. -/
def field? (value : Json) (key : Text) : Option Json :=
  match value with
  | .obj fields => fields.lookup key
  | _ => none

/-- A value that is an object. -/
def asObject? : Json → Option Json
  | .obj fields => some (.obj fields)
  | _ => none

/-- The items of a value that is an array. -/
def asArray? : Json → Option (List Json)
  | .arr items => some items
  | _ => none

/-- A value that is a string. -/
def asString? : Json → Option Text
  | .str s => some s
  | _ => none

/-- A value that is an integer; booleans and double precision numbers are none. -/
def asInt? : Json → Option Int
  | .int n => some n
  | _ => none

/-- A value that is a boolean. -/
def asBool? : Json → Option Bool
  | .bool b => some b
  | _ => none

/-- A value that is an object or an array, the only ones that may hold
parameters. -/
def asStructured? : Json → Option Json
  | .obj fields => some (.obj fields)
  | .arr items => some (.arr items)
  | _ => none

/-- A field that is an object. -/
def object? (value : Json) (key : Text) : Option Json :=
  (value.field? key).bind asObject?

/-- A field that is an array. -/
def array? (value : Json) (key : Text) : Option (List Json) :=
  (value.field? key).bind asArray?

/-- A field that is a string. -/
def string? (value : Json) (key : Text) : Option Text :=
  (value.field? key).bind asString?

/-- A field that is an integer. -/
def int? (value : Json) (key : Text) : Option Int :=
  (value.field? key).bind asInt?

/-- The value at the end of a path of keys through nested objects. -/
def path? : Json → List Text → Option Json
  | value, [] => some value
  | value, key :: rest => (value.field? key).bind fun inner => inner.path? rest

/-- A value, or `null` in its absence. -/
def orNull (value : Option Json) : Json :=
  value.getD .null

end Json

end LanguageServer
