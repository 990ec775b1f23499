import SampleTypes.Json.Number
import SampleTypes.Json.Punctuation
import SampleTypes.Json.Text
import SampleTypes.Json.Value

set_option autoImplicit false

/-! # Reading a document

A recursive descent over the octets. `depth` is how many more arrays and objects may be open
inside one another. Of several faults the first one that is reached is reported. -/

namespace SampleTypes.Json

/-- How many arrays and objects may be open inside one another. -/
def maxDepth : Nat := 127

/-- A value that is neither an array nor an object, and that starts with `b`. -/
def readScalar (b : UInt8) (rest : Bytes) : Read Value (b :: rest) :=
  if b = Octet.ofChar 'n' then readKeyword ['u', 'l', 'l'] .null b rest
  else if b = Octet.ofChar 't' then readKeyword ['r', 'u', 'e'] (.bool true) b rest
  else if b = Octet.ofChar 'f' then readKeyword ['a', 'l', 's', 'e'] (.bool false) b rest
  else if b = Octet.minus ∨ Octet.isDigit b then
    match readNumber .endInValue (b :: rest) with
    | .ok p => .ok (p.withValue (.number (keptLiteral p.value)))
    | .error e => .error e
  else if b = Octet.quote then
    match readText rest with
    | .ok p => .ok ((p.withValue (.string p.value)).push b)
    | .error e => .error e
  else .error (.next .expectedValue (b :: rest))

/-- A key behind its opening quote, and the colon that follows. -/
def readKey (s : Bytes) : Read String s :=
  match readText s with
  | .error e => .error e
  | .ok key =>
    match readColon key.rest with
    | .ok colon => .ok (key.followedBy (colon.withValue key.value))
    | .error e => .error e

mutual

/-- One value, and the blanks before it. -/
def readValue (depth : Nat) (s : Bytes) : Read Value s :=
  match nextToken? s with
  | none => .error (.next .endInValue [])
  | some t =>
    if t.octet = Octet.openBracket then
      match depth with
      | 0 => .error (.next .tooDeep t.source)
      | inner + 1 =>
        match nextToken? t.rest with
        | none => .error (.next .endInList [])
        | some u =>
          if u.octet = Octet.closeBracket then .ok (t.behind (u.take (.array [])))
          else
            match readItems inner u.source with
            | .ok p => .ok (t.behind (u.within (p.withValue (.array p.value))))
            | .error e => .error e
    else if t.octet = Octet.openBrace then
      match depth with
      | 0 => .error (.next .tooDeep t.source)
      | inner + 1 =>
        match nextToken? t.rest with
        | none => .error (.next .endInObject [])
        | some u =>
          if u.octet = Octet.closeBrace then .ok (t.behind (u.take (.object [])))
          else if u.octet = Octet.quote then
            match readMembers inner u.rest with
            | .ok p => .ok (t.behind (u.behind (p.withValue (.object (mergeMembers p.value)))))
            | .error e => .error e
          else .error (.next .keyMustBeString u.source)
    else
      match readScalar t.octet t.rest with
      | .ok p => .ok (t.within p)
      | .error e => .error e
termination_by 2 * s.length
decreasing_by
  · have := t.shorter; have := u.source_length_le; omega
  · have := t.shorter; have := u.shorter; omega

/-- The items of an array from the first one on, up to and with the closing bracket. -/
def readItems (depth : Nat) (s : Bytes) : Read (List Value) s :=
  match readValue depth s with
  | .error e => .error e
  | .ok v =>
    match nextToken? v.rest with
    | none => .error (.next .endInList [])
    | some t =>
      if t.octet = Octet.closeBracket then .ok (v.followedBy (t.take [v.value]))
      else if t.octet = Octet.comma then
        match nextToken? t.rest with
        | none => .error (.next .endInValue [])
        | some u =>
          if u.octet = Octet.closeBracket then .error (.next .trailingComma u.source)
          else
            match readItems depth u.source with
            | .ok p =>
              .ok (v.followedBy (t.behind (u.within (p.withValue (v.value :: p.value)))))
            | .error e => .error e
      else .error (.next .expectedListCommaOrEnd t.source)
termination_by 2 * s.length + 1
decreasing_by
  · omega
  · have := v.shorter; have := t.shorter; have := u.source_length_le; omega

/-- The members of an object behind the opening quote of the first key, up to and with the
    closing brace. -/
def readMembers (depth : Nat) (s : Bytes) : Read (List (String × Value)) s :=
  match readKey s with
  | .error e => .error e
  | .ok k =>
    match readValue depth k.rest with
    | .error e => .error e
    | .ok v =>
      match nextToken? v.rest with
      | none => .error (.next .endInObject [])
      | some t =>
        if t.octet = Octet.closeBrace then
          .ok (k.followedBy (v.followedBy (t.take [(k.value, v.value)])))
        else if t.octet = Octet.comma then
          match nextToken? t.rest with
          | none => .error (.next .endInValue [])
          | some u =>
            if u.octet = Octet.quote then
              match readMembers depth u.rest with
              | .ok p =>
                let members := (k.value, v.value) :: p.value
                .ok (k.followedBy (v.followedBy (t.behind (u.behind (p.withValue members)))))
              | .error e => .error e
            else if u.octet = Octet.closeBrace then .error (.next .trailingComma u.source)
            else .error (.next .keyMustBeString u.source)
        else .error (.next .expectedObjectCommaOrEnd t.source)
termination_by 2 * s.length + 1
decreasing_by
  · have := k.shorter; omega
  · have := k.shorter; have := v.shorter; have := t.shorter; have := u.shorter; omega

end

/-- The document that a strict source holds. -/
def readDocument (source : Bytes) : Except Diagnostic Value :=
  match readValue maxDepth source with
  | .error e => .error (e.locate source)
  | .ok p =>
    match expectEnd p.rest with
    | .error e => .error (e.locate source)
    | .ok () => .ok p.value

end SampleTypes.Json
