import SampleTypes.Json.Parsed

set_option autoImplicit false

/-! # Strings

A string is read up to its closing quote. Escapes are replaced by the UTF-8 octets of the
character they name, and the octets as a whole must then be UTF-8. -/

namespace SampleTypes.Json

/-! ## Escapes -/

/-- Four hexadecimal digits. A source with fewer than four octets left ends inside them. -/
def readHexUnit : (s : Bytes) → Read Nat s
  | a :: b :: c :: d :: rest =>
    match Octet.hexValue? a, Octet.hexValue? b, Octet.hexValue? c, Octet.hexValue? d with
    | some w, some x, some y, some z =>
      .ok ⟨((w * 16 + x) * 16 + y) * 16 + z, rest, by simp; omega⟩
    | _, _, _, _ => .error (.here .invalidEscape rest)
  | _ => .error (.here .endInString [])

/-- Whether a unit is the first or the second half of a surrogate pair. -/
def isHighSurrogate (n : Nat) : Bool := 0xD800 ≤ n && n ≤ 0xDBFF

/-- Whether a unit is the second half of a surrogate pair. -/
def isLowSurrogate (n : Nat) : Bool := 0xDC00 ≤ n && n ≤ 0xDFFF

/-- The UTF-8 octets of a code point. -/
def encodeCodePoint (n : Nat) : Bytes :=
  String.utf8EncodeChar (Char.ofNat n)

/-- The second half of the pair that `high` began: it must follow at once, as an escape. -/
def readLowSurrogate (high : Nat) : (s : Bytes) → Read Bytes s
  | [] => .error (.here .endInString [])
  | b :: rest =>
    if b = Octet.backslash then
      match rest with
      | [] => .error (.here .endInString [])
      | c :: more =>
        if c = Octet.ofChar 'u' then
          match readHexUnit more with
          | .ok p =>
            if isLowSurrogate p.value then
              let code := (high - 0xD800) * 0x400 + (p.value - 0xDC00) + 0x10000
              .ok (((p.withValue (encodeCodePoint code)).push c).push b)
            else .error (.here .loneSurrogate p.rest)
          | .error e => .error e
        else .error (.here .unexpectedEndOfEscape more)
    else .error (.here .unexpectedEndOfEscape rest)

/-- The character behind `\u`: one unit, or two that form a surrogate pair. -/
def readUnicodeEscape (s : Bytes) : Read Bytes s :=
  match readHexUnit s with
  | .error e => .error e
  | .ok p =>
    if isLowSurrogate p.value then .error (.here .loneSurrogate p.rest)
    else if isHighSurrogate p.value then
      match readLowSurrogate p.value p.rest with
      | .ok q => .ok (p.followedBy q)
      | .error e => .error e
    else .ok (p.withValue (encodeCodePoint p.value))

/-- The octet that a one-letter escape stands for. -/
def simpleEscape? (b : UInt8) : Option UInt8 :=
  if b = Octet.quote ∨ b = Octet.backslash ∨ b = Octet.slash then some b
  else if b = Octet.ofChar 'b' then some 0x08
  else if b = Octet.ofChar 'f' then some 0x0C
  else if b = Octet.ofChar 'n' then some Octet.newline
  else if b = Octet.ofChar 'r' then some Octet.carriageReturn
  else if b = Octet.ofChar 't' then some Octet.tab
  else none

/-- What stands behind a backslash. -/
def readEscape : (s : Bytes) → Read Bytes s
  | [] => .error (.here .endInString [])
  | b :: rest =>
    match simpleEscape? b with
    | some octet => .ok (.single b rest [octet])
    | none =>
      if b = Octet.ofChar 'u' then
        match readUnicodeEscape rest with
        | .ok p => .ok (p.push b)
        | .error e => .error e
      else .error (.here .invalidEscape rest)

/-! ## Strings -/

/-- The octets of a string whose opening quote has been consumed. -/
def readTextOctets (s : Bytes) : Read Bytes s :=
  match s with
  | [] => .error (.here .endInString [])
  | b :: rest =>
    if b = Octet.quote then .ok (.single b rest [])
    else if b = Octet.backslash then
      match readEscape rest with
      | .error e => .error e
      | .ok p =>
        have := p.shorter
        match readTextOctets p.rest with
        | .ok q => .ok (((p.followedBy q).withValue (p.value ++ q.value)).push b)
        | .error e => .error e
    else if b < Octet.space then .error (.here .controlCharacter rest)
    else
      match readTextOctets rest with
      | .ok q => .ok ((q.withValue (b :: q.value)).push b)
      | .error e => .error e
termination_by s.length
decreasing_by all_goals (simp only [List.length_cons]; omega)

/-- The text of UTF-8 octets. -/
def decodeText? (octets : Bytes) : Option String :=
  String.fromUTF8? (ByteArray.mk octets.toArray)

/-- A string whose opening quote has been consumed. -/
def readText (s : Bytes) : Read String s :=
  match readTextOctets s with
  | .error e => .error e
  | .ok p =>
    match decodeText? p.value with
    | some text => .ok (p.withValue text)
    | none => .error (.here .invalidCodePoint p.rest)

end SampleTypes.Json
