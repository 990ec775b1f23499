import SampleTypes.Decimal.Basic

set_option autoImplicit false

/-! # Decimals as text

A decimal is written with a point, and with an exponent if the point would lie far outside its
digits: above 10 ^ 16 or below 10 ^ -5. -/

namespace SampleTypes

namespace Decimal

/-- `n` zeros. -/
def zeros (n : Nat) : List Char :=
  List.replicate n '0'

/-- The exponent of ten behind a mark: its sign and its digits. -/
def exponentText (e : Int) : List Char :=
  'e' :: (if e < 0 then '-' else '+') :: Nat.toDigits 10 e.natAbs

/-- The text of a magnitude: `digits` are those of the coefficient and `point` of them stand left
    of the point. -/
def magnitudeText (digits : List Char) (point : Int) : List Char :=
  if 0 < point ∧ point ≤ 16 then
    if digits.length ≤ point then
      digits ++ zeros (point.toNat - digits.length) ++ ['.', '0']
    else digits.take point.toNat ++ '.' :: digits.drop point.toNat
  else if -5 < point ∧ point ≤ 0 then '0' :: '.' :: zeros (-point).toNat ++ digits
  else
    match digits with
    | [] => []
    | [d] => d :: exponentText (point - 1)
    | d :: more => d :: '.' :: more ++ exponentText (point - 1)

/-- The text of a decimal. Zero has one digit left of the point, and may be negative. -/
def text (negative : Bool) (d : Decimal) : String :=
  let digits := Nat.toDigits 10 d.coefficient
  let point := if d.isZero then 1 else d.pointPlace
  let magnitude := magnitudeText digits point
  String.ofList (if negative then '-' :: magnitude else magnitude)

end Decimal

end SampleTypes
