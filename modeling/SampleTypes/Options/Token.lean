import SampleTypes.Options.Basic
import SampleTypes.Unicode.CaseMapping

set_option autoImplicit false

/-! # Tokens

Choices are named by tokens. Case does not matter, nor do hyphens, underscores, points and
spaces, so `protected-internal` and `ProtectedInternal` agree. A token that names nothing stands
for the default. -/

namespace SampleTypes

/-- The characters of a token that do not matter. -/
def isTokenFiller (c : Char) : Bool :=
  c == '-' || c == '_' || c == '.' || c == ' '

/-- What of a token matters. -/
def foldToken (token : String) : String :=
  String.ofList ((token.toList.filter fun c => !isTokenFiller c).map Unicode.lowerChar)

/-- The language of a token. -/
def Language.ofToken (token : String) : Language :=
  match foldToken token with
  | "python" | "py" | "python3" => .python
  | _ => .csharp

/-- The style that a token names. -/
def Style.ofToken? (token : String) : Option Style :=
  match foldToken token with
  | "record" => some .record
  | "class" => some .classType
  | "struct" => some .structType
  | "dataclass" | "data" => some .dataClass
  | "plainclass" | "plain" | "initclass" | "init" => some .plainClass
  | _ => none

/-- The style of a token. -/
def Style.ofToken (token : String) : Style :=
  (Style.ofToken? token).getD .record

/-- The style of a token in a language: a token that names no style, or one that the language does
    not have, stands for the language's default. -/
def Style.ofTokenFor (token : String) (language : Language) : Style :=
  match Style.ofToken? token with
  | some style => style.fitTo language
  | none => Style.default language

/-- The access of a token. -/
def Access.ofToken (token : String) : Access :=
  match foldToken token with
  | "internal" => .assembly
  | "protected" => .family
  | "private" => .owner
  | "protectedinternal" => .familyOrAssembly
  | "privateprotected" => .familyAndAssembly
  | _ => .everyone

/-- The serializer of a token. -/
def Serializer.ofToken (token : String) : Serializer :=
  match foldToken token with
  | "none" | "off" => .none
  | "newtonsoft" | "newtonsoftjson" | "jsonnet" => .newtonsoft
  | _ => .systemTextJson

/-- The mutability of a token. -/
def Mutability.ofToken (token : String) : Mutability :=
  match foldToken token with
  | "settable" | "set" | "mutable" => .settable
  | _ => .initOnly

/-- The indentation character of a token. -/
def IndentChar.ofToken (token : String) : IndentChar :=
  match foldToken token with
  | "tab" | "tabs" | "\t" => .tab
  | _ => .space

end SampleTypes
