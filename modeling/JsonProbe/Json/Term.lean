/-!
# JSON values

A value of a JSON document. Numbers keep their source text. An object is a list of members kept
sorted by key with no key twice; adding a member whose key is present replaces its value, so of a
key repeated in a document the last value stays.
-/

set_option autoImplicit false

namespace JsonProbe

/-- A JSON value. The members of an object are sorted by key, each key once. -/
inductive Term where
  | null
  | bool (value : Bool)
  | number (text : String)
  | string (value : String)
  | array (items : List Term)
  | object (members : List (String × Term))
  deriving Repr, Inhabited

namespace Term

/-- Adds a member to a key-sorted member list; a key already present takes the new value. -/
def insertMember (key : String) (value : Term) : List (String × Term) → List (String × Term)
  | [] => [(key, value)]
  | (k, v) :: rest =>
    if key < k then (key, value) :: (k, v) :: rest
    else if key = k then (key, value) :: rest
    else (k, v) :: insertMember key value rest

/-- The name of a value's kind, as messages write it. -/
def typeName : Term → String
  | .null => "null"
  | .bool _ => "boolean"
  | .number _ => "number"
  | .string _ => "string"
  | .array _ => "array"
  | .object _ => "object"

/-- The text of a scalar: `null`, `true`, `false`, a number as written, or a string's content.
Arrays and objects have none. -/
def scalarText? : Term → Option String
  | .null => some "null"
  | .bool true => some "true"
  | .bool false => some "false"
  | .number text => some text
  | .string value => some value
  | .array _ => none
  | .object _ => none

/-- The keys of an object, in order. -/
def keys? : Term → Option (List String)
  | .object members => some (members.map Prod.fst)
  | _ => none

/-- The value of a key of an object. -/
def member? (members : List (String × Term)) (key : String) : Option Term :=
  (members.find? fun m => m.1 == key).map Prod.snd

end Term

end JsonProbe
