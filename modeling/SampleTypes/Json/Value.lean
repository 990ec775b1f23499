set_option autoImplicit false

/-! # Documents

A parsed document. A number keeps its literal, because its type is read off the digits that
were written; an object keeps its members in the order of their first appearance. -/

namespace SampleTypes.Json

/-- A JSON value. -/
inductive Value where
  | null
  | bool (value : Bool)
  | number (literal : String)
  | string (text : String)
  | array (items : List Value)
  | object (members : List (String × Value))
  deriving Repr, BEq, Inhabited

namespace Value

/-- Whether the value is `null`. -/
def isNull : Value → Bool
  | .null => true
  | _ => false

/-- Whether the value is an array. -/
def isArray : Value → Bool
  | .array _ => true
  | _ => false

/-- Whether the value is an object. -/
def isObject : Value → Bool
  | .object _ => true
  | _ => false

/-- The kind of a value, in the words of a diagnostic. -/
def kind : Value → String
  | .null => "null"
  | .bool _ => "a boolean"
  | .number _ => "a number"
  | .string _ => "a string"
  | .array _ => "an array"
  | .object _ => "an object"

/-- A value is nullable when it is `null` itself, or an array that holds a `null`. -/
def isNullable : Value → Bool
  | .null => true
  | .array items => items.any isNull
  | _ => false

end Value

/-- Give `key` the value `v`: in place if the key is there already, at the end if it is not. -/
def putMember (members : List (String × Value)) (key : String) (v : Value) :
    List (String × Value) :=
  match members with
  | [] => [(key, v)]
  | (k, old) :: rest =>
    if k = key then (k, v) :: rest else (k, old) :: putMember rest key v

/-- The members of an object written with these keys and values: of a repeated key the first
    place and the last value stand. -/
def mergeMembers (written : List (String × Value)) : List (String × Value) :=
  written.foldl (fun members m => putMember members m.1 m.2) []

end SampleTypes.Json
