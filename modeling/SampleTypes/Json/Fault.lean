import SampleTypes.Json.Source

set_option autoImplicit false

/-! # What is wrong with a source

A reader that gives up says what it met and how much of the source it had not consumed. The
place in the source follows from the second, once the whole source is at hand. -/

namespace SampleTypes.Json

/-! ## Complaints -/

/-- What stood where something else was wanted. -/
inductive Found where
  | null
  | boolean (value : Bool)
  | integer (value : Int)
  | float (text : String)
  | number
  | string (quoted : String)
  | sequence
  | map
  deriving Repr, DecidableEq

/-- The phrase for what was found. -/
def Found.phrase : Found → String
  | .null => "null"
  | .boolean b => "boolean `" ++ (if b then "true" else "false") ++ "`"
  | .integer n => "integer `" ++ toString n ++ "`"
  | .float text => "floating point `" ++ text ++ "`"
  | .number => "number"
  | .string quoted => "string " ++ quoted
  | .sequence => "sequence"
  | .map => "map"

/-- Why a source is refused. -/
inductive Complaint where
  | endInList
  | endInObject
  | endInString
  | endInValue
  | expectedColon
  | expectedListCommaOrEnd
  | expectedObjectCommaOrEnd
  | expectedKeyword
  | expectedValue
  | invalidEscape
  | invalidNumber
  | numberOutOfRange
  | invalidCodePoint
  | controlCharacter
  | keyMustBeString
  | loneSurrogate
  | trailingComma
  | trailingCharacters
  | unexpectedEndOfEscape
  | tooDeep
  | wrongType (found : Found) (expected : String)
  | wrongValue (found : Found) (expected : String)
  | repeatedField (name : String)
  deriving Repr, DecidableEq

/-- The three families of complaints: the source ended early, it breaks the grammar, or it is
    well formed and says something that is not wanted. -/
inductive Category where
  | ending
  | grammar
  | data
  deriving Repr, DecidableEq

/-- The family of a complaint. -/
def Complaint.category : Complaint → Category
  | .endInList | .endInObject | .endInString | .endInValue => .ending
  | .wrongType .. | .wrongValue .. | .repeatedField _ => .data
  | _ => .grammar

/-- The wording of a complaint. -/
def Complaint.message : Complaint → String
  | .endInList => "EOF while parsing a list"
  | .endInObject => "EOF while parsing an object"
  | .endInString => "EOF while parsing a string"
  | .endInValue => "EOF while parsing a value"
  | .expectedColon => "expected `:`"
  | .expectedListCommaOrEnd => "expected `,` or `]`"
  | .expectedObjectCommaOrEnd => "expected `,` or `\x7d`"
  | .expectedKeyword => "expected ident"
  | .expectedValue => "expected value"
  | .invalidEscape => "invalid escape"
  | .invalidNumber => "invalid number"
  | .numberOutOfRange => "number out of range"
  | .invalidCodePoint => "invalid unicode code point"
  | .controlCharacter => "control character (\\u0000-\\u001F) found while parsing a string"
  | .keyMustBeString => "key must be a string"
  | .loneSurrogate => "lone leading surrogate in hex escape"
  | .trailingComma => "trailing comma"
  | .trailingCharacters => "trailing characters"
  | .unexpectedEndOfEscape => "unexpected end of hex escape"
  | .tooDeep => "recursion limit exceeded"
  | .wrongType found expected => "invalid type: " ++ found.phrase ++ ", expected " ++ expected
  | .wrongValue found expected => "invalid value: " ++ found.phrase ++ ", expected " ++ expected
  | .repeatedField name => "duplicate field `" ++ name ++ "`"

/-! ## Faults and diagnostics -/

/-- A complaint, with the number of octets that were left when it was made. -/
structure Fault where
  complaint : Complaint
  left : Nat
  deriving Repr, DecidableEq

/-- A complaint about what was just consumed: `s` is what is left after it. -/
def Fault.here (complaint : Complaint) (s : Bytes) : Fault :=
  ⟨complaint, s.length⟩

/-- A complaint about the octet that comes next, which counts as consumed. -/
def Fault.next (complaint : Complaint) (s : Bytes) : Fault :=
  ⟨complaint, s.length - 1⟩

/-- A complaint with its place in the source. -/
structure Diagnostic where
  complaint : Complaint
  position : Position
  deriving Repr, DecidableEq

/-- Where in `source` the fault lies. -/
def Fault.locate (source : Bytes) (f : Fault) : Diagnostic :=
  ⟨f.complaint, Position.after (source.take (source.length - f.left))⟩

/-- The wording of a diagnostic. -/
def Diagnostic.message (d : Diagnostic) : String :=
  d.complaint.message ++ " at line " ++ toString d.position.line ++ " column "
    ++ toString d.position.column

end SampleTypes.Json
