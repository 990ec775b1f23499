import SampleTypes.Json.Number
import SampleTypes.Json.Quoted
import SampleTypes.Json.Text

set_option autoImplicit false

/-! # Values of the wrong type

Where a value of one type is wanted and another one stands, the complaint names what was found.
A scalar is read first, so a fault inside it comes before its being of the wrong type; of an
array or an object only the opening bracket is looked at. -/

namespace SampleTypes.Json

/-- The complaint about a keyword whose first letter has been consumed. -/
def wordMismatch (expected : String) (word : List Char) (found : Found) (rest : Bytes) : Fault :=
  match expectWord word rest with
  | .ok p => .here (.wrongType found expected) p.rest
  | .error e => e

/-- What a literal is called in a complaint. -/
def foundNumber (literal : Bytes) : Found :=
  match wordValue? literal with
  | some n => .integer n
  | none => .number

/-- The complaint about a value that starts with `b` where `expected` is wanted. -/
def mismatch (expected : String) (b : UInt8) (rest : Bytes) : Fault :=
  if b = Octet.ofChar 'n' then wordMismatch expected ['u', 'l', 'l'] .null rest
  else if b = Octet.ofChar 't' then wordMismatch expected ['r', 'u', 'e'] (.boolean true) rest
  else if b = Octet.ofChar 'f' then
    wordMismatch expected ['a', 'l', 's', 'e'] (.boolean false) rest
  else if b = Octet.minus ∨ Octet.isDigit b then
    match readNumber .endInValue (b :: rest) with
    | .ok p => .here (.wrongType (foundNumber p.value) expected) p.rest
    | .error e => e
  else if b = Octet.quote then
    match readText rest with
    | .ok p => .here (.wrongType (.string (quoted p.value)) expected) p.rest
    | .error e => e
  else if b = Octet.openBracket then .here (.wrongType .sequence expected) (b :: rest)
  else if b = Octet.openBrace then .here (.wrongType .map expected) (b :: rest)
  else .next .expectedValue (b :: rest)

end SampleTypes.Json
