import SampleTypes.Inference.ValueType
import SampleTypes.Json.Fault
import SampleTypes.Options.Basic

set_option autoImplicit false

/-! # Failures

Everything that can keep a document from being rendered, with its wording and the exit status
that a program ends with on account of it. -/

namespace SampleTypes

/-- Why no source text was produced. -/
inductive Error where
  /-- The document breaks the grammar, also the relaxed one. -/
  | malformed (diagnostic : Json.Diagnostic)
  /-- The document could not be read to its end. -/
  | unreadable (cause : String)
  /-- No type holds the number. -/
  | unsupportedNumber (literal : String)
  /-- The language has no spelling for the type. -/
  | missingAlias (type : ValueType) (language : Language)
  /-- The language does not have the style. -/
  | unsupportedTarget (language : Language) (style : Style)
  /-- An argument makes no sense, whatever the document. -/
  | invalidArgument (reason : String)
  /-- The document is an empty array. -/
  | emptyRootArray
  /-- Objects that share a place have different keys. -/
  | incompatibleShapes (path : String) (expected found : List String)
  /-- The document is neither an object nor an array of objects. -/
  | unsupportedRoot (found : String)
  deriving Repr, DecidableEq

namespace Error

/-- The wording of a failure. -/
def message : Error → String
  | .malformed diagnostic => "malformed JSON: " ++ diagnostic.message
  | .unreadable cause => "failed to read JSON source: " ++ cause
  | .unsupportedNumber literal => "unsupported number literal `" ++ literal ++ "`"
  | .missingAlias type language =>
    "no " ++ language.name ++ " alias for canonical type " ++ type.name
  | .unsupportedTarget language style =>
    "target not implemented: " ++ language.name ++ " " ++ style.name
  | .invalidArgument reason => "invalid argument: " ++ reason
  | .emptyRootArray => "root array is empty; nothing to infer a type from"
  | .incompatibleShapes path expected found =>
    "incompatible object shapes at " ++ path ++ ": expected keys ["
      ++ ", ".intercalate expected ++ "], found [" ++ ", ".intercalate found ++ "]"
  | .unsupportedRoot found =>
    "unsupported root: expected an object or an array of objects, found " ++ found

/-- The exit status: 65 for a fault of the document, 74 for one of reading it, 70 for any
    other. -/
def exitCode : Error → Nat
  | .malformed _ => 65
  | .unsupportedNumber _ => 65
  | .emptyRootArray => 65
  | .incompatibleShapes .. => 65
  | .unsupportedRoot _ => 65
  | .unreadable _ => 74
  | .missingAlias .. => 70
  | .unsupportedTarget .. => 70
  | .invalidArgument _ => 70

/-- Whether the document itself is at fault. -/
def isInputError (e : Error) : Bool :=
  e.exitCode == 65

end Error

end SampleTypes
