import SampleTypes.Error
import SampleTypes.Naming.Words

set_option autoImplicit false

/-! # Identifiers

What a raw key or a requested name becomes in the generated source: the name of a type, of a C#
member or of a Python attribute. -/

namespace SampleTypes.Naming

/-- Put `replacement` in the place of every `illegal` character. -/
def replaceChar (illegal : Char) (replacement : List Char) (s : List Char) : List Char :=
  s.flatMap fun c => if c = illegal then replacement else [c]

/-- Put `replacement` in the place of every `illegal` character of a text. There must be one, if
    only an empty one. -/
def sanitize (illegal : Char) (replacement : Option String) (text : String) :
    Except Error String :=
  match replacement with
  | some r => .ok (String.ofList (replaceChar illegal r.toList text.toList))
  | none => .error (.invalidArgument "sanitize: replacement must be provided")

/-- A name for the nameless. -/
def orElse (fallback : String) (name : List Char) : List Char :=
  if name.isEmpty then fallback.toList else name

/-- An underscore in front of a leading digit 0 to 9. -/
def guardDigit : List Char → List Char
  | [] => []
  | c :: rest => if '0' ≤ c ∧ c ≤ '9' then '_' :: c :: rest else c :: rest

/-- Capitalized words that a type may not be called. -/
def capitalKeywords : List String := ["None", "True", "False"]

/-- The name of a type. -/
def typeIdentifier (raw : String) : String :=
  let name := String.ofList (guardDigit (orElse "Item" (pascalCase raw.toList)))
  if name ∈ capitalKeywords then name ++ "Type" else name

/-- The name of a C# member of the type `enclosing`, which may not bear the name of its type. -/
def csharpMember (raw enclosing : String) : String :=
  let cleaned := replaceChar ':' ['_'] raw.toList
  let name := String.ofList (guardDigit (orElse "Property" (pascalCase cleaned)))
  if name = enclosing then name ++ "Value" else name

/-- The keywords of Python. -/
def pythonKeywords : List String :=
  ["False", "None", "True", "and", "as", "assert", "async", "await", "break", "class",
    "continue", "def", "del", "elif", "else", "except", "finally", "for", "from", "global", "if",
    "import", "in", "is", "lambda", "nonlocal", "not", "or", "pass", "raise", "return", "try",
    "while", "with", "yield"]

/-- The name of a Python attribute, which is neither a keyword nor the name of the instance. -/
def pythonMember (raw : String) : String :=
  let name := String.ofList (guardDigit (orElse "field" (snakeCase raw.toList)))
  if name = "self" ∨ name ∈ pythonKeywords then name ++ "_" else name

end SampleTypes.Naming
