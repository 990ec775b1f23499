import SampleTypes.Declaration.Basic
import SampleTypes.Options.Basic

set_option autoImplicit false

/-! # Imports

The library names that member types need, read off the types. The lines at the head of a source
name each of them once, in a fixed order. -/

namespace SampleTypes

/-- Something a generated source must import. -/
inductive Import where
  /-- The namespace of the C# types for UUIDs, moments and spans of time. -/
  | system
  /-- Annotations that are not evaluated, so that they may name later declarations. -/
  | annotations
  | dataclass
  | datetime
  | timedelta
  | decimal
  | any
  | list
  | optional
  | uuid
  deriving Repr, DecidableEq

namespace Import

/-- What a value type needs. -/
def ofValueType : Language → ValueType → List Import
  | .csharp, .uuid => [.system]
  | .csharp, .dateTime => [.system]
  | .csharp, .offsetDateTime => [.system]
  | .csharp, .timeSpan => [.system]
  | .csharp, _ => []
  | .python, .uuid => [.uuid]
  | .python, .dateTime => [.datetime]
  | .python, .offsetDateTime => [.datetime]
  | .python, .timeSpan => [.timedelta]
  | .python, .decimal => [.decimal]
  | .python, .object => [.any]
  | .python, _ => []

/-- What a mark for nullable types needs. -/
def ofMark : Language → (nullable : Bool) → List Import
  | .python, true => [.optional]
  | _, _ => []

/-- What a member type needs. -/
def ofType (language : Language) : TypeExpr → List Import
  | .any => ofValueType language .object
  | .value type => ofValueType language type
  | .named _ =>
    match language with
    | .csharp => []
    | .python => [.annotations]
  | .list item itemNullable =>
    ofType language item ++ ofMark language itemNullable
      ++ match language with
        | .csharp => []
        | .python => [.list]

/-- What a member needs. -/
def ofMember (language : Language) (m : Member) : List Import :=
  ofType language m.type ++ ofMark language m.nullable

/-- What the members of declarations need. -/
def ofDeclarations (language : Language) (declarations : List Declaration) : List Import :=
  declarations.flatMap fun d => d.members.flatMap (ofMember language)

/-- The names among `pairs` that are needed. -/
def needed (imports : List Import) (pairs : List (Import × String)) : List String :=
  (pairs.filter fun p => imports.contains p.1).map (·.2)

/-- A line that takes names from a module, if any are needed. -/
def fromLine (imports : List Import) (library : String) (pairs : List (Import × String)) :
    List String :=
  match needed imports pairs with
  | [] => []
  | names => ["from " ++ library ++ " import " ++ ", ".intercalate names]

/-- The lines at the head of a source. -/
def lines (imports : List Import) : Language → List String
  | .csharp => if imports.contains .system then ["using System;"] else []
  | .python =>
    fromLine imports "__future__" [(.annotations, "annotations")]
      ++ fromLine imports "dataclasses" [(.dataclass, "dataclass")]
      ++ fromLine imports "datetime" [(.datetime, "datetime"), (.timedelta, "timedelta")]
      ++ fromLine imports "decimal" [(.decimal, "Decimal")]
      ++ fromLine imports "typing" [(.any, "Any"), (.list, "List"), (.optional, "Optional")]
      ++ fromLine imports "uuid" [(.uuid, "UUID")]

end Import

end SampleTypes
