set_option autoImplicit false

/-! # Source text

A document arrives as octets. They are meant to be UTF-8, but nothing promises it, so reading
works on the octets themselves and text is decoded where a string ends. -/

namespace SampleTypes.Json

/-- The octets of a document, or of what is left of one. -/
abbrev Bytes := List UInt8

/-! ## Octets with a meaning -/

namespace Octet

def tab : UInt8 := 0x09
def newline : UInt8 := 0x0A
def carriageReturn : UInt8 := 0x0D
def space : UInt8 := 0x20
def quote : UInt8 := 0x22
def star : UInt8 := 0x2A
def plus : UInt8 := 0x2B
def comma : UInt8 := 0x2C
def minus : UInt8 := 0x2D
def point : UInt8 := 0x2E
def slash : UInt8 := 0x2F
def zero : UInt8 := 0x30
def nine : UInt8 := 0x39
def colon : UInt8 := 0x3A
def openBracket : UInt8 := 0x5B
def backslash : UInt8 := 0x5C
def closeBracket : UInt8 := 0x5D
def openBrace : UInt8 := 0x7B
def closeBrace : UInt8 := 0x7D

/-- The octet of an ASCII character. -/
def ofChar (c : Char) : UInt8 := c.toNat.toUInt8

/-- The character of an ASCII octet. -/
def toChar (b : UInt8) : Char := Char.ofNat b.toNat

/-- Blanks between tokens: space, tab, line feed, carriage return. -/
def isBlank (b : UInt8) : Bool :=
  b == space || b == newline || b == tab || b == carriageReturn

/-- The digits 0 to 9. -/
def isDigit (b : UInt8) : Bool :=
  zero ≤ b && b ≤ nine

/-- The value of a hexadecimal digit. -/
def hexValue? (b : UInt8) : Option Nat :=
  if isDigit b then some (b.toNat - 0x30)
  else if 0x41 ≤ b && b ≤ 0x46 then some (b.toNat - 0x41 + 10)
  else if 0x61 ≤ b && b ≤ 0x66 then some (b.toNat - 0x61 + 10)
  else none

end Octet

/-- What follows the leading blanks. -/
def skipBlanks (s : Bytes) : Bytes :=
  s.dropWhile Octet.isBlank

theorem skipBlanks_length_le (s : Bytes) : (skipBlanks s).length ≤ s.length :=
  (List.dropWhile_sublist Octet.isBlank).length_le

theorem length_lt_of_skipBlanks {s rest : Bytes} {b : UInt8} (h : skipBlanks s = b :: rest) :
    rest.length < s.length := by
  have hs := skipBlanks_length_le s
  rw [h] at hs
  exact hs

/-! ## Places in the source -/

/-- A place in the source: lines count from one, columns count the octets since the line
    began. -/
structure Position where
  line : Nat
  column : Nat
  deriving Repr, DecidableEq

/-- The place reached by consuming one more octet. -/
def Position.advance (p : Position) (b : UInt8) : Position :=
  if b = Octet.newline then ⟨p.line + 1, 0⟩ else ⟨p.line, p.column + 1⟩

/-- The place reached by consuming `consumed` from the start of the source. -/
def Position.after (consumed : Bytes) : Position :=
  consumed.foldl Position.advance ⟨1, 0⟩

end SampleTypes.Json
