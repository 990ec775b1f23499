import SampleTypes.Json.Mismatch
import SampleTypes.Json.Token

set_option autoImplicit false

/-! # Values of a given type

Readers for a place where a text, a truth value or, beside those, null is wanted. -/

namespace SampleTypes.Json

/-- Skip blanks and go on with the octet behind them. -/
def readNext {α : Type} (s : Bytes) (read : (b : UInt8) → (rest : Bytes) → Read α (b :: rest)) :
    Read α s :=
  match nextToken? s with
  | none => .error (.next .endInValue [])
  | some t =>
    match read t.octet t.rest with
    | .ok p => .ok (t.within p)
    | .error e => .error e

/-- A text. -/
def readString (s : Bytes) : Read String s :=
  readNext s fun b rest =>
    if b = Octet.quote then
      match readText rest with
      | .ok p => .ok (p.push b)
      | .error e => .error e
    else .error (mismatch "a string" b rest)

/-- A truth value. -/
def readBoolean (s : Bytes) : Read Bool s :=
  readNext s fun b rest =>
    if b = Octet.ofChar 't' then readKeyword ['r', 'u', 'e'] true b rest
    else if b = Octet.ofChar 'f' then readKeyword ['a', 'l', 's', 'e'] false b rest
    else .error (mismatch "a boolean" b rest)

/-- Null, or what `read` accepts. -/
def readNullable {α : Type} (read : (s : Bytes) → Read α s) (s : Bytes) : Read (Option α) s :=
  readNext s fun b rest =>
    if b = Octet.ofChar 'n' then readKeyword ['u', 'l', 'l'] none b rest
    else
      match read (b :: rest) with
      | .ok p => .ok (p.withValue (some p.value))
      | .error e => .error e

end SampleTypes.Json
