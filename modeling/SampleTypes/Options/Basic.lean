set_option autoImplicit false

/-! # Options of the generated source

Every choice has a default. The language decides which styles there are. -/

namespace SampleTypes

/-- The language of the generated source. -/
inductive Language where
  | csharp
  | python
  deriving Repr, DecidableEq, Inhabited

/-- The form of a declaration. -/
inductive Style where
  /-- A positional record with a primary constructor. -/
  | record
  /-- A class with one property per member. -/
  | classType
  /-- A value type with one property per member. -/
  | structType
  /-- A data class driven by its annotations. -/
  | dataClass
  /-- A plain class whose constructor assigns every member. -/
  | plainClass
  deriving Repr, DecidableEq, Inhabited

/-- Who may use a declaration: everyone, the assembly it is part of, the types derived from its
    owner, that owner alone, or a combination of these. -/
inductive Access where
  | everyone
  | assembly
  | family
  | owner
  | familyOrAssembly
  | familyAndAssembly
  deriving Repr, DecidableEq, Inhabited

/-- The library whose attributes tie a member to its key. -/
inductive Serializer where
  | none
  | systemTextJson
  | newtonsoft
  deriving Repr, DecidableEq, Inhabited

/-- Whether a member may be assigned after construction. -/
inductive Mutability where
  | initOnly
  | settable
  deriving Repr, DecidableEq, Inhabited

/-- The character that indentation is made of. -/
inductive IndentChar where
  | space
  | tab
  deriving Repr, DecidableEq, Inhabited

/-- One level of indentation. -/
structure Indentation where
  char : IndentChar
  width : Nat
  deriving Repr, DecidableEq

/-- All choices together. -/
structure Options where
  language : Language
  style : Style
  access : Access
  /-- Whether other types may derive from a declaration. -/
  inheritable : Bool
  serializer : Serializer
  mutability : Mutability
  indentation : Indentation
  typeHints : Bool
  deriving Repr, DecidableEq

/-! ## Names -/

/-- The name of a language. -/
def Language.name : Language → String
  | .csharp => "csharp"
  | .python => "python"

/-- The extension of a source file. -/
def Language.fileExtension : Language → String
  | .csharp => "cs"
  | .python => "py"

/-- The name of a style. -/
def Style.name : Style → String
  | .record => "record"
  | .classType => "class"
  | .structType => "struct"
  | .dataClass => "dataclass"
  | .plainClass => "plain-class"

/-- The language that has the style. -/
def Style.language : Style → Language
  | .record | .classType | .structType => .csharp
  | .dataClass | .plainClass => .python

/-- The modifier of a declaration. -/
def Access.keyword : Access → String
  | .everyone => "public"
  | .assembly => "internal"
  | .family => "protected"
  | .owner => "private"
  | .familyOrAssembly => "protected internal"
  | .familyAndAssembly => "private protected"

/-! ## Defaults -/

/-- The style that a language takes unless told otherwise. -/
def Style.default : Language → Style
  | .csharp => .record
  | .python => .dataClass

/-- The style if the language has it, and else the language's default. -/
def Style.fitTo (style : Style) (language : Language) : Style :=
  if style.language = language then style else Style.default language

/-- The width of a level: four spaces or one tab. -/
def IndentChar.defaultWidth : IndentChar → Nat
  | .space => 4
  | .tab => 1

/-- The text of one level. -/
def Indentation.unit (i : Indentation) : String :=
  String.ofList (List.replicate i.width (match i.char with | .space => ' ' | .tab => '\t'))

/-- The defaults for a language. -/
def Options.forLanguage (language : Language) : Options where
  language := language
  style := Style.default language
  access := .everyone
  inheritable := false
  serializer := .systemTextJson
  mutability := .initOnly
  indentation := ⟨.space, IndentChar.space.defaultWidth⟩
  typeHints := true

/-- The defaults. -/
def Options.default : Options :=
  Options.forLanguage .csharp

end SampleTypes
