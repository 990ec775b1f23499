import SampleTypes.Scalar.Scan

set_option autoImplicit false

/-! # UUIDs

Thirty-two hexadecimal digits of either case: bare, in five groups joined by hyphens, or the
latter in braces or behind `urn:uuid:`, which may be written in either case too. -/

namespace SampleTypes.Uuid

/-- Whether a character is a hexadecimal digit. -/
def isHexDigit (c : Char) : Bool :=
  ('0' ≤ c && c ≤ '9') || ('a' ≤ c && c ≤ 'f') || ('A' ≤ c && c ≤ 'F')

/-- Thirty-two digits and nothing between them. -/
def isBare (s : List Char) : Bool :=
  s.length == 32 && s.all isHexDigit

/-- The lengths of the groups of the hyphenated form. -/
def groupLengths : List Nat := [8, 4, 4, 4, 12]

/-- Whether `s` consists of groups of digits of these lengths, joined by hyphens. -/
def isGrouped : List Nat → List Char → Bool
  | [], s => s.isEmpty
  | [n], s => s.length == n && s.all isHexDigit
  | n :: lengths, s =>
    (s.take n).length == n && (s.take n).all isHexDigit
      && (s.drop n).head? == some '-' && isGrouped lengths (s.drop (n + 1))

/-- The five groups. -/
def isHyphenated (s : List Char) : Bool :=
  isGrouped groupLengths s

/-- The five groups in braces. -/
def isBraced : List Char → Bool
  | '\x7b' :: rest => rest.getLast? == some '\x7d' && isHyphenated rest.dropLast
  | _ => false

/-- What the name form starts with, in small letters. -/
def nameScheme : List Char := ['u', 'r', 'n', ':', 'u', 'u', 'i', 'd', ':']

/-- The five groups as a uniform resource name. -/
def isName (s : List Char) : Bool :=
  (s.take nameScheme.length).map Scan.lowerAscii == nameScheme
    && isHyphenated (s.drop nameScheme.length)

/-- Whether a text is a UUID in one of the four forms. -/
def accepts (s : List Char) : Bool :=
  isBare s || isHyphenated s || isBraced s || isName s

end SampleTypes.Uuid
