import SampleTypes.Decimal.Coarse
import SampleTypes.Decimal.Notation
import SampleTypes.Json.Typed

set_option autoImplicit false

/-! # Unsigned words

A reader for a place where an integer from 0 to 2^64 - 1 is wanted. Every other number is
refused under the name it would have in 64 bits: as a signed integer if it is one, and else as a
number of double precision, into which it is brought the coarse way. -/

namespace SampleTypes.Json

/-! ## The parts of a literal -/

/-- A literal taken apart. The fraction and the exponent are empty where the literal has none. -/
structure NumberParts where
  negative : Bool
  whole : Bytes
  fraction : Bytes
  exponentNegative : Bool
  exponent : Bytes
  deriving Repr, DecidableEq

/-- The sign and the digits of an exponent behind its mark. -/
def exponentParts : Bytes → Bool × Bytes
  | [] => (false, [])
  | b :: rest =>
    if b = Octet.minus then (true, rest)
    else if b = Octet.plus then (false, rest)
    else (false, b :: rest)

/-- What stands behind the integer part of a literal. -/
def fractionParts : Bytes → Bytes × Bytes
  | [] => ([], [])
  | b :: rest => if b = Octet.point then (takeDigits rest, dropDigits rest) else ([], b :: rest)

/-- The parts of a well-formed literal. -/
def NumberParts.ofLiteral (literal : Bytes) : NumberParts :=
  let negative := literal.head? == some Octet.minus
  let unsigned := if negative then literal.drop 1 else literal
  let (fraction, tail) := fractionParts (dropDigits unsigned)
  let (exponentNegative, exponent) := exponentParts (tail.drop 1)
  ⟨negative, takeDigits unsigned, fraction, exponentNegative, exponent⟩

/-- Whether the literal has neither a fraction nor an exponent. -/
def NumberParts.isInteger (p : NumberParts) : Bool :=
  p.fraction.isEmpty && p.exponent.isEmpty

/-! ## What fits a word -/

/-- Append digits to `n` as long as the result fits 64 bits. The second result counts them. -/
def appendDigits (n : Nat) : Bytes → Nat × Nat
  | [] => (n, 0)
  | b :: rest =>
    let m := n * 10 + (b.toNat - 0x30)
    if m < 0x10000000000000000 then
      let (value, count) := appendDigits m rest
      (value, count + 1)
    else (n, 0)

/-- What follows the digit with which a run of digits, continuing `n`, exceeds `limit`. -/
def afterExcess? (limit n : Nat) : Bytes → Option Bytes
  | [] => none
  | b :: rest =>
    let m := n * 10 + (b.toNat - 0x30)
    if limit < m then some rest else afterExcess? limit m rest

/-- The greatest exponent that is read. -/
def maxExponent : Nat := 0x7FFFFFFF

/-- The complaint about a number that no word is, between `significand · 10 ^ shift` and the
    exponent in `p`. `rest` follows the literal. -/
def floatFault (expected : String) (p : NumberParts) (significand : Nat) (shift : Int)
    (rest : Bytes) : Fault :=
  let excess := if p.exponentNegative ∨ significand = 0 then none
    else afterExcess? maxExponent 0 p.exponent
  match excess with
  | some more => .here .numberOutOfRange (more ++ rest)
  | none =>
    let written : Int := digitsValue p.exponent
    let exponent := if p.exponentNegative then shift - written else shift + written
    match BinaryFormat.binary64.coarse significand exponent with
    | none => .here .numberOutOfRange rest
    | some d =>
      let shown := if d.mantissa = 0 then Decimal.normal false 0 0
        else BinaryFormat.binary64.shortest .even d
      .here (.wrongType (.float (Decimal.text p.negative shown)) expected) rest

/-- The word that a literal stands for. -/
def wordOf (expected : String) (literal rest : Bytes) : Except Fault Nat :=
  let p := NumberParts.ofLiteral literal
  let (whole, wholeCount) := appendDigits 0 p.whole
  let dropped := p.whole.length - wholeCount
  if p.isInteger ∧ dropped = 0 ∧ ¬ p.negative then .ok whole
  else if p.isInteger ∧ dropped = 0 ∧ 0 < whole ∧ whole ≤ 0x8000000000000000 then
    .error (.here (.wrongValue (.integer (-whole)) expected) rest)
  else
    let (significand, fractionCount) := appendDigits whole p.fraction
    .error (floatFault expected p significand (dropped - fractionCount) rest)

/-- An unsigned word. Complaints call it `expected`. -/
def readWord (expected : String) (s : Bytes) : Read Nat s :=
  readNext s fun b rest =>
    if b = Octet.minus ∨ Octet.isDigit b then
      match readNumber .endInValue (b :: rest) with
      | .error e => .error e
      | .ok p =>
        match wordOf expected p.value p.rest with
        | .ok n => .ok (p.withValue n)
        | .error e => .error e
    else .error (mismatch expected b rest)

end SampleTypes.Json
