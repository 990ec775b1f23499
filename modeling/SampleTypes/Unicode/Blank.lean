import SampleTypes.Unicode.Span

set_option autoImplicit false

/-! # White space and control characters -/

namespace SampleTypes.Unicode

/-- White space, Unicode 17.0. -/
def blankSpans : SpanTable :=
  [ ⟨0x09, 0x0D, 1⟩, ⟨0x20, 0x20, 1⟩, ⟨0x85, 0x85, 1⟩, ⟨0xA0, 0xA0, 1⟩, ⟨0x1680, 0x1680, 1⟩,
    ⟨0x2000, 0x200A, 1⟩, ⟨0x2028, 0x2029, 1⟩, ⟨0x202F, 0x202F, 1⟩, ⟨0x205F, 0x205F, 1⟩,
    ⟨0x3000, 0x3000, 1⟩ ]

/-- Whether a character is white space in any script. -/
def isBlank (c : Char) : Bool :=
  blankSpans.contains c.toNat

/-- Whether a character is a control character: U+0000 to U+001F and U+007F to U+009F. -/
def isControl (c : Char) : Bool :=
  c.toNat < 0x20 || (0x7F ≤ c.toNat && c.toNat < 0xA0)

/-- What follows the leading white space. -/
def trimStart (s : List Char) : List Char :=
  s.dropWhile isBlank

end SampleTypes.Unicode
