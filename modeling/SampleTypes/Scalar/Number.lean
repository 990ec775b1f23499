import SampleTypes.Decimal.Binary
import SampleTypes.Inference.ValueType

set_option autoImplicit false

/-! # Types of number literals

An integer literal takes the first of the 32-bit and 64-bit integer types that holds it, signed
before unsigned. Any other literal takes the first of the two float types that keeps all its
digits, and else the decimal type, which holds 96 bits left of the point. -/

namespace SampleTypes

/-- The greatest number of the decimal type. -/
def decimalMax : Nat := 79228162514264337593543950335

/-- Whether a literal is written without a point and without an exponent. -/
def isIntegerLiteral (literal : List Char) : Bool :=
  !literal.isEmpty && literal.all fun c => c != '.' && c != 'e' && c != 'E'

/-- The integer type of a number, if one holds it. -/
def integerType? (n : Int) : Option ValueType :=
  if -0x80000000 ≤ n ∧ n < 0x80000000 then some .int32
  else if 0 ≤ n ∧ n < 0x100000000 then some .uint32
  else if -0x8000000000000000 ≤ n ∧ n < 0x8000000000000000 then some .int64
  else if 0 ≤ n ∧ n < 0x10000000000000000 then some .uint64
  else none

/-- The type of a number that takes no integer type, if one holds it. -/
def fractionalType? (d : Decimal) : Option ValueType :=
  if BinaryFormat.binary32.keeps d then some .float32
  else if BinaryFormat.binary64.keeps d then some .float64
  else if d.magnitudeLe decimalMax then some .decimal
  else none

/-- The type of a number literal; none if no type holds it. -/
def numberType? (literal : List Char) : Option ValueType :=
  let integer :=
    if isIntegerLiteral literal then (Decimal.intValue? literal).bind integerType? else none
  match integer with
  | some type => some type
  | none => (Decimal.ofLiteral? literal).bind fractionalType?

end SampleTypes
