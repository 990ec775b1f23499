import SampleTypes.Error

set_option autoImplicit false

/-! # Spellings of value types

What each language calls the types of single values. Arrays have no entry: a language spells
them around their items. -/

namespace SampleTypes

/-- The C# spelling of a type. -/
def csharpAlias? : ValueType → Option String
  | .bool => some "bool"
  | .text => some "string"
  | .uuid => some "Guid"
  | .dateTime => some "DateTime"
  | .offsetDateTime => some "DateTimeOffset"
  | .timeSpan => some "TimeSpan"
  | .int32 => some "int"
  | .uint32 => some "uint"
  | .int64 => some "long"
  | .uint64 => some "ulong"
  | .float32 => some "float"
  | .float64 => some "double"
  | .decimal => some "decimal"
  | .object => some "object"
  | .arrayOf _ => none
  | .mixedArray => none

/-- The Python spelling of a type. -/
def pythonAlias? : ValueType → Option String
  | .bool => some "bool"
  | .text => some "str"
  | .uuid => some "UUID"
  | .dateTime => some "datetime"
  | .offsetDateTime => some "datetime"
  | .timeSpan => some "timedelta"
  | .int32 => some "int"
  | .uint32 => some "int"
  | .int64 => some "int"
  | .uint64 => some "int"
  | .float32 => some "float"
  | .float64 => some "float"
  | .decimal => some "Decimal"
  | .object => some "Any"
  | .arrayOf _ => none
  | .mixedArray => none

namespace Language

/-- The spelling of a type, if the language has one. -/
def alias? : Language → ValueType → Option String
  | .csharp => csharpAlias?
  | .python => pythonAlias?

/-- The spelling of a type that must have one. -/
def spellingOf (language : Language) (type : ValueType) : Except Error String :=
  match language.alias? type with
  | some spelling => .ok spelling
  | none => .error (.missingAlias type language)

/-- The names that the generated source uses for types of a library, which a declaration may not
    take. -/
def reservedNames : Language → List String
  | .csharp => ["Guid", "DateTime", "DateTimeOffset", "TimeSpan", "System", "Newtonsoft"]
  | .python =>
    ["Any", "List", "Optional", "UUID", "Decimal", "dataclass", "datetime", "timedelta"]

end Language

end SampleTypes
