import SampleTypes.Unicode.Blank

set_option autoImplicit false

/-! # Scanning the front of a text

Each scanner takes what it wants from the front of a text and returns what is left, or finds
that the text does not start that way. -/

namespace SampleTypes.Scan

open SampleTypes.Unicode

/-- The digits 0 to 9. -/
def isAsciiDigit (c : Char) : Bool := '0' ≤ c && c ≤ '9'

/-- The longest run of digits at the front, of at most `limit`, and what is left. -/
def takeDigits : (limit : Nat) → List Char → List Char × List Char
  | 0, s => ([], s)
  | _ + 1, [] => ([], [])
  | limit + 1, c :: rest =>
    if isAsciiDigit c then
      let (digits, left) := takeDigits limit rest
      (c :: digits, left)
    else ([], c :: rest)

/-- The number that a run of digits writes. -/
def digitsValue (digits : List Char) : Nat :=
  digits.foldl (fun n c => n * 10 + (c.toNat - '0'.toNat)) 0

/-- A number of at least `least` and at most `most` digits. -/
def number? (least most : Nat) (s : List Char) : Option (Nat × List Char) :=
  let (digits, left) := takeDigits most s
  if least ≤ digits.length then some (digitsValue digits, left) else none

/-- A number of at least `least` digits. -/
def longNumber? (least : Nat) (s : List Char) : Option (Nat × List Char) :=
  number? least s.length s

/-- One given character. -/
def char? (wanted : Char) : List Char → Option (List Char)
  | [] => none
  | c :: rest => if c = wanted then some rest else none

/-- At least one blank, and all that follow it. -/
def blanks? (s : List Char) : Option (List Char) :=
  match s with
  | [] => none
  | c :: _ => if isBlank c then some (trimStart s) else none

/-- An optional point with at least one digit behind it. -/
def fraction? : List Char → Option (List Char)
  | '.' :: rest => (longNumber? 1 rest).map (·.2)
  | s => some s

/-- The small ASCII letter of a capital one. -/
def lowerAscii (c : Char) : Char :=
  if 'A' ≤ c ∧ c ≤ 'Z' then Char.ofNat (c.toNat + 32) else c

/-- The place of the three-letter name that the text starts with, in either case. -/
def shortName? (names : List (List Char)) (s : List Char) : Option (Nat × List Char) :=
  (names.idxOf? ((s.take 3).map lowerAscii)).map fun i => (i, s.drop 3)

end SampleTypes.Scan
