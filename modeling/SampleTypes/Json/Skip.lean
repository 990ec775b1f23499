import SampleTypes.Json.Number
import SampleTypes.Json.Punctuation
import SampleTypes.Json.Text

set_option autoImplicit false

/-! # Skipping a value

A value that nobody asked for is passed over. Its brackets must match and its tokens must be well
formed, but its strings are not decoded, it may be nested to any depth, and a closing bracket
behind a comma is not told apart from any other octet that starts no value. -/

namespace SampleTypes.Json

/-- The rest of a string whose opening quote has been consumed. -/
def skipText (s : Bytes) : Read Unit s :=
  match s with
  | [] => .error (.here .endInString [])
  | b :: rest =>
    if b = Octet.quote then .ok (.single b rest ())
    else if b = Octet.backslash then
      match rest with
      | [] => .error (.here .endInString [])
      | c :: more =>
        if (simpleEscape? c).isSome then
          match skipText more with
          | .ok p => .ok ((p.push c).push b)
          | .error e => .error e
        else if c = Octet.ofChar 'u' then
          match readHexUnit more with
          | .error e => .error e
          | .ok unit =>
            match skipText unit.rest with
            | .ok p => .ok (((unit.followedBy p).push c).push b)
            | .error e => .error e
        else .error (.here .invalidEscape more)
    else if b < Octet.space then .error (.here .controlCharacter (b :: rest))
    else
      match skipText rest with
      | .ok p => .ok (p.push b)
      | .error e => .error e
termination_by s.length
decreasing_by
  · simp only [List.length_cons]; omega
  · have := unit.shorter; simp only [List.length_cons]; omega
  · simp only [List.length_cons]; omega

/-- A value that is neither an array nor an object, and that starts with `b`. -/
def skipScalar (b : UInt8) (rest : Bytes) : Read Unit (b :: rest) :=
  if b = Octet.ofChar 'n' then readKeyword ['u', 'l', 'l'] () b rest
  else if b = Octet.ofChar 't' then readKeyword ['r', 'u', 'e'] () b rest
  else if b = Octet.ofChar 'f' then readKeyword ['a', 'l', 's', 'e'] () b rest
  else if b = Octet.minus ∨ Octet.isDigit b then
    match readNumber .invalidNumber (b :: rest) with
    | .ok p => .ok (p.withValue ())
    | .error e => .error e
  else if b = Octet.quote then
    match skipText rest with
    | .ok p => .ok (p.push b)
    | .error e => .error e
  else .error (.next .expectedValue (b :: rest))

/-- A key, the blanks before it and the colon behind it. -/
def skipKey (s : Bytes) : Read Unit s :=
  match nextToken? s with
  | none => .error (.next .endInObject [])
  | some t =>
    if t.octet = Octet.quote then
      match skipText t.rest with
      | .error e => .error e
      | .ok key =>
        match readColon key.rest with
        | .ok colon => .ok (t.behind (key.followedBy colon))
        | .error e => .error e
    else .error (.next .keyMustBeString t.source)

mutual

/-- One value, and the blanks before it. -/
def skipValue (s : Bytes) : Read Unit s :=
  match nextToken? s with
  | none => .error (.next .endInValue [])
  | some t =>
    if t.octet = Octet.openBracket then
      match nextToken? t.rest with
      | none => .error (.next .endInList [])
      | some u =>
        if u.octet = Octet.closeBracket then .ok (t.behind (u.take ()))
        else
          match skipItems u.source with
          | .ok p => .ok (t.behind (u.within p))
          | .error e => .error e
    else if t.octet = Octet.openBrace then
      match nextToken? t.rest with
      | none => .error (.next .endInObject [])
      | some u =>
        if u.octet = Octet.closeBrace then .ok (t.behind (u.take ()))
        else
          match skipMembers u.source with
          | .ok p => .ok (t.behind (u.within p))
          | .error e => .error e
    else
      match skipScalar t.octet t.rest with
      | .ok p => .ok (t.within p)
      | .error e => .error e
termination_by 2 * s.length
decreasing_by
  · have := t.shorter; have := u.source_length_le; omega
  · have := t.shorter; have := u.source_length_le; omega

/-- The items of an array from the first one on, up to and with the closing bracket. -/
def skipItems (s : Bytes) : Read Unit s :=
  match skipValue s with
  | .error e => .error e
  | .ok v =>
    match nextToken? v.rest with
    | none => .error (.next .endInList [])
    | some t =>
      if t.octet = Octet.closeBracket then .ok (v.followedBy (t.take ()))
      else if t.octet = Octet.comma then
        match skipItems t.rest with
        | .ok p => .ok (v.followedBy (t.behind p))
        | .error e => .error e
      else .error (.next .expectedListCommaOrEnd t.source)
termination_by 2 * s.length + 1
decreasing_by
  · omega
  · have := v.shorter; have := t.shorter; omega

/-- The members of an object from the first key on, up to and with the closing brace. -/
def skipMembers (s : Bytes) : Read Unit s :=
  match skipKey s with
  | .error e => .error e
  | .ok k =>
    match skipValue k.rest with
    | .error e => .error e
    | .ok v =>
      match nextToken? v.rest with
      | none => .error (.next .endInObject [])
      | some t =>
        if t.octet = Octet.closeBrace then .ok (k.followedBy (v.followedBy (t.take ())))
        else if t.octet = Octet.comma then
          match skipMembers t.rest with
          | .ok p => .ok (k.followedBy (v.followedBy (t.behind p)))
          | .error e => .error e
        else .error (.next .expectedObjectCommaOrEnd t.source)
termination_by 2 * s.length + 1
decreasing_by
  · have := k.shorter; omega
  · have := k.shorter; have := v.shorter; have := t.shorter; omega

end

end SampleTypes.Json
