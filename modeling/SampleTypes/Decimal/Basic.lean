import SampleTypes.Decimal.Power

set_option autoImplicit false

/-! # Decimal numbers

A number literal denotes `± coefficient · 10 ^ exponent`. Dropping the trailing zeros of the
coefficient makes this a normal form: two literals have the same form exactly when they have
the same value. -/

namespace SampleTypes

/-- The number `± coefficient · 10 ^ exponent`. -/
structure Decimal where
  negative : Bool
  coefficient : Nat
  exponent : Int
  deriving Repr, DecidableEq

namespace Decimal

/-- How many decimal digits a number has; zero has one. -/
def digitCount (n : Nat) : Nat :=
  if n < 10 then 1 else digitCount (n / 10) + 1

/-- Move the trailing zeros of `n` into the exponent `e`. -/
def stripZeros (n : Nat) (e : Int) : Nat × Int :=
  if n = 0 then (0, 0)
  else if n % 10 = 0 then stripZeros (n / 10) (e + 1)
  else (n, e)
termination_by n
decreasing_by omega

/-- The normal form of a number: no trailing zeros in the coefficient, and one zero. -/
def normal (negative : Bool) (coefficient : Nat) (exponent : Int) : Decimal :=
  let (n, e) := stripZeros coefficient exponent
  ⟨negative && n != 0, n, e⟩

/-- Whether the number is zero. -/
def isZero (d : Decimal) : Bool :=
  d.coefficient == 0

/-! ## Digits left of the point -/

/-- Whether an integer fits 64 bits. -/
def isWord (e : Int) : Bool :=
  -0x8000000000000000 ≤ e && e < 0x8000000000000000

/-- Where the decimal point stands, counted from the front of the digits; negative or zero when
    zeros follow the point. -/
def pointPlace (d : Decimal) : Int :=
  digitCount d.coefficient + d.exponent

/-- The number of digits left of the decimal point. It is a sum in 64 bits, and wraps around
    where the place of the point is beyond them. -/
def integerDigits (d : Decimal) : Int :=
  d.pointPlace.bmod 0x10000000000000000

/-- Whether the magnitude is at most `bound`, a number of `digitCount bound` digits. -/
def magnitudeLe (d : Decimal) (bound : Nat) : Bool :=
  if d.integerDigits < digitCount bound then true
  else if digitCount bound < d.integerDigits then false
  else d.coefficient * pow10 d.exponent.toNat ≤ bound * pow10 (-d.exponent).toNat

/-! ## Literals -/

/-- The value of an ASCII digit. -/
def digitValue? (c : Char) : Option Nat :=
  if '0' ≤ c ∧ c ≤ '9' then some (c.toNat - '0'.toNat) else none

/-- The value of a run of digits, continuing `n`; the run may be empty. -/
def digitsValue? (n : Nat) : List Char → Option Nat
  | [] => some n
  | c :: rest =>
    match digitValue? c with
    | some d => digitsValue? (n * 10 + d) rest
    | none => none

/-- The value of a run of at least one digit. -/
def natValue? (s : List Char) : Option Nat :=
  if s.isEmpty then none else digitsValue? 0 s

/-- The value of an optional sign and at least one digit. -/
def intValue? : List Char → Option Int
  | '-' :: rest => (natValue? rest).map fun n => -(n : Int)
  | '+' :: rest => (natValue? rest).map fun n => (n : Int)
  | s => (natValue? s).map fun n => (n : Int)

/-- Split at the first character that satisfies `p`, which belongs to neither side. -/
def splitAtFirst (p : Char → Bool) : List Char → List Char × Option (List Char)
  | [] => ([], none)
  | c :: rest =>
    if p c then ([], some rest)
    else
      let (before, after) := splitAtFirst p rest
      (c :: before, after)

/-- The sign of a literal, and what is behind it. -/
def splitSign : List Char → Bool × List Char
  | '-' :: rest => (true, rest)
  | s => (false, s)

/-- The exponent behind a mark, if it fits 64 bits. Without a mark it is zero. -/
def exponentValue? : Option (List Char) → Option Int
  | none => some 0
  | some text => (intValue? text).filter isWord

/-- A number in normal form, unless its exponent leaves 64 bits before or after its zeros are
    dropped. -/
def normal? (negative : Bool) (coefficient : Nat) (exponent : Int) : Option Decimal :=
  let d := normal negative coefficient exponent
  if isWord exponent && isWord d.exponent then some d else none

/-- The number that a literal denotes: an optional minus, digits with an optional point among
    them, and an optional exponent. There is none if the exponent leaves 64 bits, before or
    after it is shifted by the digits behind the point. -/
def ofLiteral? (literal : List Char) : Option Decimal := do
  let (negative, unsigned) := splitSign literal
  let (mantissa, exponentText) := splitAtFirst (fun c => c == 'e' || c == 'E') unsigned
  let (whole, fractionText) := splitAtFirst (fun c => c == '.') mantissa
  let fraction := fractionText.getD []
  let written ← exponentValue? exponentText
  let coefficient ← natValue? (whole ++ fraction)
  normal? negative coefficient (written - fraction.length)

end Decimal

end SampleTypes
