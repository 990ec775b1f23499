import SampleTypes.Json.Token

set_option autoImplicit false

/-! # Punctuation

What stands between a key and its value, and behind a document. -/

namespace SampleTypes.Json

/-- The colon between a key and its value, and the blanks before it. -/
def readColon (s : Bytes) : Read Unit s :=
  match nextToken? s with
  | none => .error (.next .endInObject [])
  | some t =>
    if t.octet = Octet.colon then .ok (t.take ())
    else .error (.next .expectedColon t.source)

/-- Nothing but blanks may be left. -/
def expectEnd (s : Bytes) : Except Fault Unit :=
  match skipBlanks s with
  | [] => .ok ()
  | b :: rest => .error (.next .trailingCharacters (b :: rest))

end SampleTypes.Json
