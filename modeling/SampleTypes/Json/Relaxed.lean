import SampleTypes.Json.Source

set_option autoImplicit false

/-! # Relaxed sources

A relaxed source may open with a byte-order mark, hold `//` and `/* */` comments between its
tokens and leave a comma behind the last element of an array or member of an object. `relax`
writes spaces over all three and touches nothing else: every octet keeps its offset and every
line its number, so that a complaint about the blanked source is a complaint about the source.

Whatever is none of these forms is left for the reader to refuse: a block comment that does not
end, a comma with nothing before it. -/

namespace SampleTypes.Json

/-! ## Byte-order mark -/

/-- Blank a leading byte-order mark. -/
def blankMark : Bytes → Bytes
  | 0xEF :: 0xBB :: 0xBF :: rest => Octet.space :: Octet.space :: Octet.space :: rest
  | s => s

/-! ## Comments -/

/-- A space over anything but a line break. -/
def blankOctet (b : UInt8) : UInt8 :=
  if b = Octet.newline ∨ b = Octet.carriageReturn then b else Octet.space

/-- Whether a block comment whose opening has been consumed ends in `s`. -/
def closesComment : Bytes → Bool
  | [] => false
  | b :: rest => (b == Octet.star && rest.head? == some Octet.slash) || closesComment rest

/-- Where in the source a scan for comments stands. -/
inductive CommentScan where
  /-- Between strings and comments. -/
  | plain
  /-- Inside a string. -/
  | text
  /-- Inside a string, behind a backslash. -/
  | escaped
  /-- Inside a comment that ends with the line. -/
  | line
  /-- At the star that opens a block comment. -/
  | opening
  /-- Inside a block comment. -/
  | block
  /-- At the slash that ends a block comment. -/
  | closing
  deriving Repr, DecidableEq

/-- Blank the comments of what is left of a source. -/
def blankComments : CommentScan → Bytes → Bytes
  | _, [] => []
  | .plain, b :: rest =>
    if b = Octet.quote then b :: blankComments .text rest
    else if b = Octet.slash ∧ rest.head? = some Octet.slash then
      Octet.space :: blankComments .line rest
    else if b = Octet.slash ∧ rest.head? = some Octet.star ∧ closesComment rest.tail then
      Octet.space :: blankComments .opening rest
    else b :: blankComments .plain rest
  | .text, b :: rest =>
    if b = Octet.backslash then b :: blankComments .escaped rest
    else if b = Octet.quote then b :: blankComments .plain rest
    else b :: blankComments .text rest
  | .escaped, b :: rest => b :: blankComments .text rest
  | .line, b :: rest =>
    if b = Octet.newline then b :: blankComments .plain rest
    else blankOctet b :: blankComments .line rest
  | .opening, _ :: rest => Octet.space :: blankComments .block rest
  | .block, b :: rest =>
    if b = Octet.star ∧ rest.head? = some Octet.slash then
      Octet.space :: blankComments .closing rest
    else blankOctet b :: blankComments .block rest
  | .closing, _ :: rest => Octet.space :: blankComments .plain rest

/-! ## Trailing commas -/

/-- Whether the next token closes an array or an object. -/
def closesNext (s : Bytes) : Bool :=
  match skipBlanks s with
  | b :: _ => b == Octet.closeBracket || b == Octet.closeBrace
  | [] => false

/-- Whether a comma may stand behind this octet: there is one, and it opens nothing and is no
    comma itself. -/
def endsElement : Option UInt8 → Bool
  | none => false
  | some b => !(b == Octet.openBracket || b == Octet.openBrace || b == Octet.comma)

/-- Where in the source a scan for commas stands. -/
inductive CommaScan where
  /-- Between strings, behind `before`, the last octet that is no blank. -/
  | plain (before : Option UInt8)
  /-- Inside a string. -/
  | text
  /-- Inside a string, behind a backslash. -/
  | escaped
  deriving Repr, DecidableEq

/-- Blank the trailing commas of what is left of a source without comments. -/
def blankCommas : CommaScan → Bytes → Bytes
  | _, [] => []
  | .plain before, b :: rest =>
    if Octet.isBlank b then b :: blankCommas (.plain before) rest
    else if b = Octet.quote then b :: blankCommas .text rest
    else if b = Octet.comma ∧ endsElement before ∧ closesNext rest then
      Octet.space :: blankCommas (.plain (some b)) rest
    else b :: blankCommas (.plain (some b)) rest
  | .text, b :: rest =>
    if b = Octet.backslash then b :: blankCommas .escaped rest
    else if b = Octet.quote then b :: blankCommas (.plain (some b)) rest
    else b :: blankCommas .text rest
  | .escaped, b :: rest => b :: blankCommas .text rest

/-- The strict source behind a relaxed one, of the same length. -/
def relax (source : Bytes) : Bytes :=
  blankCommas (.plain none) (blankComments .plain (blankMark source))

end SampleTypes.Json
