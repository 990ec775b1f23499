import SampleTypes.Error
import SampleTypes.Json.Value
import SampleTypes.Scalar.Number
import SampleTypes.Scalar.Text

set_option autoImplicit false

/-! # Types of documents

The type of a value, with that of an array read off its elements. Only a number can fail to have
a type. -/

namespace SampleTypes

open Json (Value)

/-- The type of a value on its own, whatever an array holds. `null` suggests no type, which is
    what an object of unknown shape does. -/
def leafType : Value → Except Error ValueType
  | .null => .ok .object
  | .object _ => .ok .object
  | .bool _ => .ok .bool
  | .number literal =>
    match numberType? literal.toList with
    | some type => .ok type
    | none => .error (.unsupportedNumber literal)
  | .string text => .ok (textType text.toList)
  | .array _ => .ok .mixedArray

mutual

/-- The type of a value. -/
def valueType : Value → Except Error ValueType
  | .array items =>
    match elementTypes items with
    | .ok entries => .ok (.ofElements entries)
    | .error e => .error e
  | .null => leafType .null
  | .bool b => leafType (.bool b)
  | .number literal => leafType (.number literal)
  | .string text => leafType (.string text)
  | .object members => leafType (.object members)

/-- Which of the elements are `null`, and the type of each. -/
def elementTypes : List Value → Except Error (List (Bool × ValueType))
  | [] => .ok []
  | v :: rest =>
    match valueType v with
    | .error e => .error e
    | .ok type =>
      match elementTypes rest with
      | .ok entries => .ok ((v.isNull, type) :: entries)
      | .error e => .error e

end

end SampleTypes
