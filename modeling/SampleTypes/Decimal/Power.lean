set_option autoImplicit false

/-! # Powers

The powers by which decimal and binary numbers are brought to a common scale. -/

namespace SampleTypes

/-- The power `2 ^ n`. -/
def pow2 (n : Nat) : Nat :=
  Nat.pow 2 n

/-- The power `5 ^ n`. -/
def pow5 (n : Nat) : Nat :=
  Nat.pow 5 n

/-- The power `10 ^ n`. -/
def pow10 (n : Nat) : Nat :=
  Nat.pow 10 n

theorem pow2_pos (n : Nat) : 0 < pow2 n :=
  Nat.pow_pos (by decide)

theorem pow10_pos (n : Nat) : 0 < pow10 n :=
  Nat.pow_pos (by decide)

end SampleTypes
