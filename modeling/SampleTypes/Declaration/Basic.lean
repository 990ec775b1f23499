import SampleTypes.Inference.ValueType

set_option autoImplicit false

/-! # Declarations

What is to be generated, without regard to a language: named types with members, which refer to
one another by name. -/

namespace SampleTypes

/-- The type of a member. -/
inductive TypeExpr where
  /-- Anything: the shape is empty, unknown or differs from value to value. -/
  | any
  /-- A type that each language spells in its own way. -/
  | value (type : ValueType)
  /-- A declaration. -/
  | named (name : String)
  /-- A list; in `[1, null]` it is the item that may be missing and not the list. -/
  | list (item : TypeExpr) (itemNullable : Bool)
  deriving Repr, DecidableEq, Inhabited

/-- A member: the key it stands for, as it was written, and its type. -/
structure Member where
  key : String
  type : TypeExpr
  nullable : Bool
  deriving Repr, DecidableEq, Inhabited

/-- A named type. -/
structure Declaration where
  name : String
  members : List Member
  deriving Repr, DecidableEq, Inhabited

end SampleTypes
