import SampleTypes.Unicode.Alphanumeric
import SampleTypes.Unicode.CaseMapping
import SampleTypes.Unicode.LetterCase

set_option autoImplicit false

/-! # Words of a name

A key may be spelled in any style. Its words are cut at everything that is not alphanumeric, and
before a capital that starts a word: one that follows no capital (`camelCase`), or the last of a
run of capitals when a small letter follows (`HTTPServer` is `HTTP`, `Server`). -/

namespace SampleTypes.Naming

open SampleTypes.Unicode

/-! ## Cutting -/

/-- Whether the capital `c`, inside a run of alphanumeric characters, starts a word: `before` is
    the character in front of it and `after` the one behind it. -/
def startsWord (before c : Char) (after : Option Char) : Bool :=
  isUppercase c && (!isUppercase before || after.any isLowercase)

/-- Put a character in front of the first word. -/
def glue (c : Char) : List (List Char) → List (List Char)
  | [] => [[c]]
  | w :: rest => (c :: w) :: rest

/-- The words of a text that follows the alphanumeric character `before`. The first one
    continues the word of `before`, and is empty if that word has ended. -/
def wordsAfter (before : Char) : List Char → List (List Char)
  | [] => [[]]
  | c :: rest =>
    if !isAlphanumeric c then [] :: wordsOf rest
    else if startsWord before c rest.head? then [] :: glue c (wordsAfter c rest)
    else glue c (wordsAfter c rest)
where
  /-- The words of a text that does not continue a word. -/
  wordsOf : List Char → List (List Char)
    | [] => []
    | c :: rest => if isAlphanumeric c then glue c (wordsAfter c rest) else wordsOf rest

/-- The words of a text. -/
def words (s : List Char) : List (List Char) :=
  wordsAfter.wordsOf s

/-! ## Joining -/

/-- A word with a capital in front and small letters behind. -/
def capitalize : List Char → List Char
  | [] => []
  | c :: rest => upperChar c :: rest.map lowerChar

/-- The words of a text, capitalized and joined. -/
def pascalPass (s : List Char) : List Char :=
  (words s).flatMap capitalize

/-- Repeat `pascalPass` until the text stays the same, at most `fuel` times. -/
def pascalRepeat : (fuel : Nat) → List Char → List Char
  | 0, s => s
  | fuel + 1, s =>
    let next := pascalPass s
    if next = s then s else pascalRepeat fuel next

/-- Pascal case. A joined text may have other words than the one it was joined from (`aB` is `a`,
    `B`, and `AB` is one word), so the pass is repeated. -/
def pascalCase (s : List Char) : List Char :=
  let first := pascalPass s
  pascalRepeat (first.length + 1) first

/-- Snake case: the words in small letters, joined by underscores. -/
def snakeCase (s : List Char) : List Char :=
  ['_'].intercalate ((words s).map fun w => w.map lowerChar)

end SampleTypes.Naming
