set_option autoImplicit false

/-! # Types of sample values

What a single value says about the type it was written for. Whether it may be missing is not
part of the type: that is read off the value. -/

namespace SampleTypes

/-- The type that a value suggests. -/
inductive ValueType where
  | bool
  | text
  | uuid
  | dateTime
  | offsetDateTime
  | timeSpan
  | int32
  | uint32
  | int64
  | uint64
  | float32
  | float64
  /-- A number that only a decimal type holds without loss. -/
  | decimal
  /-- A structured value, or anything at all where the shape is empty or unknown. -/
  | object
  /-- An array whose elements, `null` aside, have one type. -/
  | arrayOf (item : ValueType)
  /-- An array whose elements, `null` aside, have no type or several. -/
  | mixedArray
  deriving Repr, DecidableEq, Inhabited

namespace ValueType

/-- Whether this is the type of an array. -/
def isArray : ValueType → Bool
  | .arrayOf _ => true
  | .mixedArray => true
  | _ => false

/-- The name of a type in reports. -/
def name : ValueType → String
  | .bool => "Bool"
  | .text => "String"
  | .uuid => "Guid"
  | .dateTime => "DateTime"
  | .offsetDateTime => "DateTimeOffset"
  | .timeSpan => "TimeSpan"
  | .int32 => "Int32"
  | .uint32 => "UInt32"
  | .int64 => "Int64"
  | .uint64 => "UInt64"
  | .float32 => "Float32"
  | .float64 => "Float64"
  | .decimal => "Decimal"
  | .object => "Object"
  | .arrayOf item => "ArrayOf(" ++ item.name ++ ")"
  | .mixedArray => "HeterogeneousArray"

/-! ## Types of elements -/

/-- The distinct types of the entries that are not `null`, in the order of their first
    appearance. An entry is whether it is `null`, and its type. -/
def distinct (entries : List (Bool × ValueType)) : List ValueType :=
  entries.foldl
    (fun seen entry =>
      if entry.1 || seen.contains entry.2 then seen else seen ++ [entry.2])
    []

/-- The type of an array with these elements: one type among the elements that are not `null`
    settles it. -/
def ofElements (entries : List (Bool × ValueType)) : ValueType :=
  match distinct entries with
  | [only] => .arrayOf only
  | _ => .mixedArray

end ValueType

end SampleTypes
