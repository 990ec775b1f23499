import SampleTypes.Decimal.Basic

set_option autoImplicit false

/-! # Binary floating-point numbers

The two interchange formats of IEEE 754 that a number literal is tried against, in exact
integer arithmetic: rounding to the nearest number of a format, ties to the even one, and the
shortest decimal that rounds back. -/

namespace SampleTypes

/-- The number `mantissa · 2 ^ exponent`. -/
structure Dyadic where
  mantissa : Nat
  exponent : Int
  deriving Repr, DecidableEq

/-- A binary format: how many bits a mantissa has, and the least and the greatest weight of its
    last bit. -/
structure BinaryFormat where
  precision : Nat
  minExponent : Int
  maxExponent : Int
  deriving Repr, DecidableEq

/-- Single precision. -/
def BinaryFormat.binary32 : BinaryFormat := ⟨24, -149, 104⟩

/-- Double precision. -/
def BinaryFormat.binary64 : BinaryFormat := ⟨53, -1074, 971⟩

/-! ## Rounding to a format -/

/-- The integer nearest to `num / den`, and the even one of two. -/
def roundHalfEven (num den : Nat) : Nat :=
  let q := num / den
  let r := num % den
  if den < 2 * r ∨ (2 * r = den ∧ q % 2 = 1) then q + 1 else q

/-- The greatest `e` with `2 ^ e ≤ num / den`, for positive `num` and `den`. -/
def floorLog2 (num den : Nat) : Int :=
  let e : Int := (Nat.log2 num : Int) - Nat.log2 den
  if den * pow2 e.toNat ≤ num * pow2 (-e).toNat then e else e - 1

/-- The number of the format nearest to `num / den`, both positive; none if that is beyond the
    greatest one. -/
def BinaryFormat.round (f : BinaryFormat) (num den : Nat) : Option Dyadic :=
  let e := max (floorLog2 num den - (f.precision - 1 : Nat)) f.minExponent
  let m := roundHalfEven (num * pow2 (-e).toNat) (den * pow2 e.toNat)
  let d : Dyadic := if m = pow2 f.precision then ⟨pow2 (f.precision - 1), e + 1⟩ else ⟨m, e⟩
  if f.maxExponent < d.exponent then none else some d

/-- A number with more digits than this left of the point is beyond both formats, and one with
    as many zeros behind the point is nearer to zero than to any other number of them. -/
def BinaryFormat.digitLimit : Int := 400

/-- The number of the format nearest to a decimal's magnitude; none beyond the greatest one. -/
def BinaryFormat.roundDecimal (f : BinaryFormat) (d : Decimal) : Option Dyadic :=
  if d.isZero ∨ d.pointPlace < -BinaryFormat.digitLimit then some ⟨0, f.minExponent⟩
  else if BinaryFormat.digitLimit < d.pointPlace then none
  else f.round (d.coefficient * pow10 d.exponent.toNat) (pow10 (-d.exponent).toNat)

/-! ## The shortest decimal that rounds back -/

/-- Whether `a · 10 ^ k ≤ b · 2 ^ j`. -/
def decimalLe (a : Nat) (k : Int) (b : Nat) (j : Int) : Bool :=
  a * pow10 k.toNat * pow2 (-j).toNat ≤ b * pow2 j.toNat * pow10 (-k).toNat

/-- Whether `b · 2 ^ j ≤ a · 10 ^ k`. -/
def decimalGe (a : Nat) (k : Int) (b : Nat) (j : Int) : Bool :=
  b * pow2 j.toNat * pow10 (-k).toNat ≤ a * pow10 k.toNat * pow2 (-j).toNat

/-- Whether `a · 10 ^ k` rounds to `d`. In units of a quarter of the last bit, the reals that do
    lie between `4m - 2` and `4m + 2`; below a power of two the numbers lie closer, and the
    lower end is `4m - 1`. The ends belong to an even mantissa. -/
def BinaryFormat.roundsTo (f : BinaryFormat) (d : Dyadic) (a : Nat) (k : Int) : Bool :=
  let closer := d.mantissa = pow2 (f.precision - 1) ∧ f.minExponent < d.exponent
  let low := if closer then 4 * d.mantissa - 1 else 4 * d.mantissa - 2
  let high := 4 * d.mantissa + 2
  let j := d.exponent - 2
  if d.mantissa % 2 = 0 then decimalGe a k low j && decimalLe a k high j
  else !decimalLe a k low j && !decimalGe a k high j

/-- The greatest `e` with `10 ^ e ≤ m · 2 ^ q`, for positive `m`: the logarithm to base two times
    30103 / 100000 is off by one at most. -/
def floorLog10 (d : Dyadic) : Int :=
  let guess := (((Nat.log2 d.mantissa : Int) + d.exponent) * 30103).fdiv 100000
  if decimalLe 1 (guess + 1) d.mantissa d.exponent then guess + 1
  else if decimalLe 1 guess d.mantissa d.exponent then guess
  else guess - 1

/-- Which of two equally near decimals is taken: the greater one, or the one whose last digit is
    even. -/
inductive Midpoint where
  | greater
  | even
  deriving Repr, DecidableEq

/-- Whether a number between `below` and `below + 1` belongs to `below`. `twice` is twice its
    distance from `below`, in units of `den`. -/
def Midpoint.isDown (tie : Midpoint) (below twice den : Nat) : Bool :=
  twice < den ||
    match tie with
    | .greater => false
    | .even => twice == den && below % 2 == 0

/-- The best decimal of the grid `10 ^ k` that rounds to `d`: of the two neighbours of `d` on the
    grid the nearer one. -/
def BinaryFormat.onGrid? (f : BinaryFormat) (tie : Midpoint) (d : Dyadic) (k : Int) :
    Option Nat :=
  let num := d.mantissa * pow2 d.exponent.toNat * pow10 (-k).toNat
  let den := pow10 k.toNat * pow2 (-d.exponent).toNat
  let below := num / den
  let downFits := f.roundsTo d below k
  let upFits := f.roundsTo d (below + 1) k
  if downFits ∧ (¬ upFits ∨ tie.isDown below (2 * (num % den)) den) then some below
  else if upFits then some (below + 1)
  else none

/-- The decimal of exactly the same value. -/
def Dyadic.toDecimal (d : Dyadic) : Decimal :=
  Decimal.normal false (d.mantissa * pow2 d.exponent.toNat * pow5 (-d.exponent).toNat)
    (-((-d.exponent).toNat : Int))

/-- The shortest decimal that rounds to the positive number `d`, and the nearest of those: the
    first grid with a hit is the coarsest. Seventeen digits suffice for both formats; the whole
    expansion stands behind them for any other. -/
def BinaryFormat.shortest (f : BinaryFormat) (tie : Midpoint) (d : Dyadic) : Decimal :=
  let top := floorLog10 d
  let found := (List.range 17).findSome? fun (n : Nat) =>
    let k := top - (n : Int)
    (f.onGrid? tie d k).map fun a => Decimal.normal false a k
  found.getD d.toDecimal

/-- Whether rounding a decimal to the format loses none of its digits: the shortest decimal that
    rounds to the same number is the decimal itself. -/
def BinaryFormat.keeps (f : BinaryFormat) (d : Decimal) : Bool :=
  if d.isZero then true
  else
    match f.roundDecimal d with
    | none => false
    | some b => b.mantissa != 0 && f.shortest .greater b == { d with negative := false }

end SampleTypes
