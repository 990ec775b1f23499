import SampleTypes.Json.Mismatch
import SampleTypes.Json.Skip

set_option autoImplicit false

/-! # Records

A record is written as an object, its fields in any order, or as an array of its fields in their
order. Fields may be missing, which leaves the record as it was begun. An object may have keys
that the record does not know, and may not name a field twice. -/

namespace SampleTypes.Json

/-- A field of a record: its key, and how its value is read into the record so far. -/
structure RecordField (ρ : Type) where
  key : String
  read : (record : ρ) → (s : Bytes) → Read ρ s

/-- The field that `read` accepts and `put` stores. -/
def RecordField.ofReader {ρ α : Type} (key : String) (read : (s : Bytes) → Read α s)
    (put : ρ → α → ρ) : RecordField ρ :=
  ⟨key, fun record s =>
    match read s with
    | .ok p => .ok (p.withValue (put record p.value))
    | .error e => .error e⟩

variable {ρ : Type}

/-! ## Arrays -/

/-- The end of an array whose fields are all read. -/
def readRowEnd (record : ρ) (s : Bytes) : Read ρ s :=
  match nextToken? s with
  | none => .error (.next .endInList [])
  | some t =>
    if t.octet = Octet.closeBracket then .ok (t.take record)
    else if t.octet = Octet.comma then
      match skipBlanks t.rest with
      | [] => .error (.next .trailingCharacters [])
      | c :: more =>
        if c = Octet.closeBracket then .error (.next .trailingComma (c :: more))
        else .error (.next .trailingCharacters (c :: more))
    else .error (.next .trailingCharacters t.source)

/-- The fields of a record, up to and with the closing bracket. `first` says that none was read
    yet, so that no comma stands before the next one. -/
def readRow :
    (fields : List (RecordField ρ)) → (first : Bool) → (record : ρ) → (s : Bytes) → Read ρ s
  | [], _, record, s => readRowEnd record s
  | field :: fields, first, record, s =>
    match nextToken? s with
    | none => .error (.next .endInList [])
    | some t =>
      if t.octet = Octet.closeBracket then .ok (t.take record)
      else if first then
        match field.read record t.source with
        | .error e => .error e
        | .ok p =>
          match readRow fields false p.value p.rest with
          | .ok q => .ok (t.within (p.followedBy q))
          | .error e => .error e
      else if t.octet = Octet.comma then
        match nextToken? t.rest with
        | none => .error (.next .endInValue [])
        | some u =>
          if u.octet = Octet.closeBracket then .error (.next .trailingComma u.source)
          else
            match field.read record u.source with
            | .error e => .error e
            | .ok p =>
              match readRow fields false p.value p.rest with
              | .ok q => .ok (t.behind (u.within (p.followedBy q)))
              | .error e => .error e
      else .error (.next .expectedListCommaOrEnd t.source)

/-! ## Objects -/

/-- The complaint about a field that is named a second time. It is made behind the key and the
    blanks after it, and behind the brace if the object ends there. -/
def repeated (key : String) (afterKey : Bytes) : Fault :=
  match skipBlanks afterKey with
  | [] => .here (.repeatedField key) []
  | b :: rest => .here (.repeatedField key) (if b = Octet.closeBrace then rest else b :: rest)

/-- One entry behind the opening quote of its key. `seen` are the fields named so far. -/
def readEntry (fields : List (RecordField ρ)) (seen : List String) (record : ρ) (s : Bytes) :
    Read (ρ × List String) s :=
  match readText s with
  | .error e => .error e
  | .ok k =>
    match fields.find? fun field => field.key == k.value with
    | none =>
      match readColon k.rest with
      | .error e => .error e
      | .ok colon =>
        match skipValue colon.rest with
        | .ok p => .ok (k.followedBy (colon.followedBy (p.withValue (record, seen))))
        | .error e => .error e
    | some field =>
      if seen.contains field.key then .error (repeated field.key k.rest)
      else
        match readColon k.rest with
        | .error e => .error e
        | .ok colon =>
          match field.read record colon.rest with
          | .ok p =>
            let entry := (p.value, field.key :: seen)
            .ok (k.followedBy (colon.followedBy (p.withValue entry)))
          | .error e => .error e

/-- The entries of a record behind the opening quote of the first key, up to and with the closing
    brace. -/
def readEntries (fields : List (RecordField ρ)) (seen : List String) (record : ρ) (s : Bytes) :
    Read ρ s :=
  match readEntry fields seen record s with
  | .error e => .error e
  | .ok entry =>
    match nextToken? entry.rest with
    | none => .error (.next .endInObject [])
    | some t =>
      if t.octet = Octet.closeBrace then .ok (entry.followedBy (t.take entry.value.1))
      else if t.octet = Octet.comma then
        match nextToken? t.rest with
        | none => .error (.next .endInValue [])
        | some u =>
          if u.octet = Octet.quote then
            match readEntries fields entry.value.2 entry.value.1 u.rest with
            | .ok p => .ok (entry.followedBy (t.behind (u.behind p)))
            | .error e => .error e
          else if u.octet = Octet.closeBrace then .error (.next .trailingComma u.source)
          else .error (.next .keyMustBeString u.source)
      else .error (.next .expectedObjectCommaOrEnd t.source)
termination_by s.length
decreasing_by
  have := entry.shorter; have := t.shorter; have := u.shorter; omega

/-- A record, begun as `record`. Complaints call it `name`. -/
def readRecord (name : String) (fields : List (RecordField ρ)) (record : ρ) (s : Bytes) :
    Read ρ s :=
  match nextToken? s with
  | none => .error (.next .endInValue [])
  | some t =>
    if t.octet = Octet.openBracket then
      match readRow fields true record t.rest with
      | .ok p => .ok (t.behind p)
      | .error e => .error e
    else if t.octet = Octet.openBrace then
      match nextToken? t.rest with
      | none => .error (.next .endInObject [])
      | some u =>
        if u.octet = Octet.closeBrace then .ok (t.behind (u.take record))
        else if u.octet = Octet.quote then
          match readEntries fields [] record u.rest with
          | .ok p => .ok (t.behind (u.behind p))
          | .error e => .error e
        else .error (.next .keyMustBeString u.source)
    else .error (mismatch ("struct " ++ name) t.octet t.rest)

end SampleTypes.Json
