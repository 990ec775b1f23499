import SampleTypes.Decimal.Binary

set_option autoImplicit false

/-! # Binary numbers from decimals, the coarse way

A decimal `significand · 10 ^ exponent` is brought into a binary format by rounding the
significand and then multiplying or dividing by a rounded power of ten, each step rounding again.
The result may be off in its last bits. It serves to name a number in a diagnostic, never to
classify one. -/

namespace SampleTypes

namespace BinaryFormat

/-- The zero of a format. -/
def zero (f : BinaryFormat) : Dyadic :=
  ⟨0, f.minExponent⟩

/-- The number of the format nearest to a natural number. -/
def ofNat (f : BinaryFormat) (n : Nat) : Option Dyadic :=
  if n = 0 then some f.zero else f.round n 1

/-- The product of two numbers, rounded. -/
def mul (f : BinaryFormat) (a b : Dyadic) : Option Dyadic :=
  let e := a.exponent + b.exponent
  if a.mantissa = 0 ∨ b.mantissa = 0 then some f.zero
  else f.round (a.mantissa * b.mantissa * pow2 e.toNat) (pow2 (-e).toNat)

/-- The quotient of a number and a positive one, rounded. -/
def div (f : BinaryFormat) (a b : Dyadic) : Option Dyadic :=
  let e := a.exponent - b.exponent
  if a.mantissa = 0 then some f.zero
  else f.round (a.mantissa * pow2 e.toNat) (b.mantissa * pow2 (-e).toNat)

/-- The greatest exponent of a power of ten that double precision has. -/
def greatestPower : Nat := 308

theorem greatestPower_pos : 0 < greatestPower := by decide

/-- A number times `10 ^ exponent`, rounding the power and the result. -/
def timesPower (f : BinaryFormat) (d : Dyadic) (exponent : Int) : Option Dyadic :=
  match f.ofNat (pow10 exponent.natAbs) with
  | none => none
  | some power => if 0 ≤ exponent then f.mul d power else f.div d power

/-- A number times `10 ^ exponent`, in as many steps as there are powers to divide by; none if it
    is beyond the greatest number. -/
def scale (f : BinaryFormat) (d : Dyadic) (exponent : Int) : Option Dyadic :=
  if d.mantissa = 0 then some d
  else if (greatestPower : Int) < exponent then none
  else if -(greatestPower : Int) ≤ exponent then f.timesPower d exponent
  else
    (f.timesPower d (-(greatestPower : Int))).bind fun quotient =>
      scale f quotient (exponent + greatestPower)
termination_by (-exponent).toNat
decreasing_by have := greatestPower_pos; omega

/-- The number of the format that `significand · 10 ^ exponent` is taken for; none if it is beyond
    the greatest one. -/
def coarse (f : BinaryFormat) (significand : Nat) (exponent : Int) : Option Dyadic :=
  match f.ofNat significand with
  | some d => f.scale d exponent
  | none => none

end BinaryFormat

end SampleTypes
