import SampleTypes.Json.Parsed

set_option autoImplicit false

/-! # Number literals

A literal is an optional minus, an integer part without leading zeros, an optional fraction and
an optional exponent. Reading keeps the octets as they were written. -/

namespace SampleTypes.Json

/-- The longest run of digits at the front of `s`. -/
def takeDigits (s : Bytes) : Bytes :=
  s.takeWhile Octet.isDigit

/-- What follows the longest run of digits. -/
def dropDigits (s : Bytes) : Bytes :=
  s.dropWhile Octet.isDigit

theorem takeDigits_append_dropDigits (s : Bytes) : takeDigits s ++ dropDigits s = s :=
  List.takeWhile_append_dropWhile

theorem dropDigits_length_le (s : Bytes) : (dropDigits s).length ≤ s.length :=
  (List.dropWhile_sublist Octet.isDigit).length_le

/-! ## Parts of a literal -/

/-- The longest run of digits. -/
def Part.digits (s : Bytes) : Part s :=
  ⟨takeDigits s, dropDigits s, dropDigits_length_le s⟩

/-- The digits behind an exponent mark and its sign. `atEnd` is the complaint when the source
    ends before the first of them. -/
def readExponentDigits (atEnd : Complaint) : (s : Bytes) → Except Fault (Part s)
  | [] => .error (.here atEnd [])
  | b :: rest =>
    if Octet.isDigit b then .ok ((Part.digits rest).push b)
    else .error (.here .invalidNumber rest)

/-- What stands behind an exponent mark: an optional sign, then digits. -/
def readExponent (atEnd : Complaint) (s : Bytes) : Except Fault (Part s) :=
  match s with
  | [] => readExponentDigits atEnd []
  | b :: rest =>
    if b = Octet.plus ∨ b = Octet.minus then
      match readExponentDigits atEnd rest with
      | .ok p => .ok (p.push b)
      | .error e => .error e
    else readExponentDigits atEnd (b :: rest)

/-- An optional exponent. -/
def readExponentPart (atEnd : Complaint) (s : Bytes) : Except Fault (Part s) :=
  match s with
  | [] => .ok (.empty [])
  | b :: rest =>
    if b = Octet.ofChar 'e' ∨ b = Octet.ofChar 'E' then
      match readExponent atEnd rest with
      | .ok p => .ok (p.push b)
      | .error e => .error e
    else .ok (.empty (b :: rest))

/-- The digits behind a point, of which there is at least one, and an optional exponent. -/
def readFraction (atEnd : Complaint) (s : Bytes) : Except Fault (Part s) :=
  let digits := Part.digits s
  if digits.text.isEmpty then .error (.next (if s.isEmpty then atEnd else .invalidNumber) s)
  else
    match readExponentPart atEnd digits.rest with
    | .ok p => .ok (digits.append p)
    | .error e => .error e

/-- An optional fraction, then an optional exponent. -/
def readFractionPart (atEnd : Complaint) (s : Bytes) : Except Fault (Part s) :=
  match s with
  | [] => .ok (.empty [])
  | b :: rest =>
    if b = Octet.point then
      match readFraction atEnd rest with
      | .ok p => .ok (p.push b)
      | .error e => .error e
    else readExponentPart atEnd (b :: rest)

/-- A literal without its sign. -/
def readUnsigned (atEnd : Complaint) : (s : Bytes) → Read Bytes s
  | [] => .error (.here atEnd [])
  | b :: rest =>
    if b = Octet.zero then
      if rest.head?.any Octet.isDigit then .error (.next .invalidNumber rest)
      else
        match readFractionPart atEnd rest with
        | .ok p => .ok (p.token b)
        | .error e => .error e
    else if Octet.isDigit b then
      let digits := Part.digits rest
      match readFractionPart atEnd digits.rest with
      | .ok p => .ok ((digits.append p).token b)
      | .error e => .error e
    else .error (.here .invalidNumber rest)

/-- A literal, which starts with a minus or a digit. -/
def readNumber (atEnd : Complaint) (s : Bytes) : Read Bytes s :=
  match s with
  | [] => readUnsigned atEnd []
  | b :: rest =>
    if b = Octet.minus then
      match readUnsigned atEnd rest with
      | .ok p => .ok ((p.withValue (b :: p.value)).push b)
      | .error e => .error e
    else readUnsigned atEnd (b :: rest)

/-! ## The literal that a document keeps -/

/-- The value of a run of digits. -/
def digitsValue (digits : Bytes) : Nat :=
  digits.foldl (fun n b => n * 10 + (b.toNat - 0x30)) 0

/-- The number a literal stands for, if it is an integer that fits 64 bits: without a sign up
    to 2^64 - 1, with one down to -2^63. -/
def wordValue? (literal : Bytes) : Option Int :=
  match literal with
  | [] => none
  | b :: rest =>
    if b = Octet.minus then
      if rest.all Octet.isDigit ∧ digitsValue rest ≤ 0x8000000000000000 then
        some (-(digitsValue rest))
      else none
    else
      if (b :: rest).all Octet.isDigit ∧ digitsValue (b :: rest) < 0x10000000000000000 then
        some (digitsValue (b :: rest))
      else none

/-- The text of ASCII octets. -/
def asciiText (s : Bytes) : String :=
  String.ofList (s.map Octet.toChar)

/-- The literal as a document keeps it. It is the literal as written, but for a minus zero,
    which loses its sign. -/
def keptLiteral (literal : Bytes) : String :=
  match wordValue? literal with
  | some n => toString n
  | none => asciiText literal

end SampleTypes.Json
