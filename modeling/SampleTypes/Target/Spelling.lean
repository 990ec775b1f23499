import SampleTypes.Declaration.Basic
import SampleTypes.Target.Alias

set_option autoImplicit false

/-! # Spellings of member types -/

namespace SampleTypes

/-- A list of items. -/
def Language.listOf (item : String) : Language → String
  | .csharp => item ++ "[]"
  | .python => "List[" ++ item ++ "]"

/-- A type whose value may be missing. -/
def Language.optional (inner : String) : Language → String
  | .csharp => inner ++ "?"
  | .python => "Optional[" ++ inner ++ "]"

/-- A type, marked as nullable if it is. -/
def Language.mark (language : Language) (nullable : Bool) (inner : String) : String :=
  if nullable then language.optional inner else inner

namespace TypeExpr

/-- The spelling of a type. -/
def spell (language : Language) : TypeExpr → Except Error String
  | .any => language.spellingOf .object
  | .value type => language.spellingOf type
  | .named name => .ok name
  | .list item itemNullable =>
    match item.spell language with
    | .ok spelling => .ok (language.listOf (language.mark itemNullable spelling))
    | .error e => .error e

end TypeExpr

/-- The spelling of a member's type. -/
def Member.spell (language : Language) (m : Member) : Except Error String :=
  match m.type.spell language with
  | .ok spelling => .ok (language.mark m.nullable spelling)
  | .error e => .error e

/-- The spellings of the types of members, in their order. -/
def spellAll (language : Language) : List Member → Except Error (List String)
  | [] => .ok []
  | m :: rest =>
    match m.spell language with
    | .error e => .error e
    | .ok spelling =>
      match spellAll language rest with
      | .ok spellings => .ok (spelling :: spellings)
      | .error e => .error e

end SampleTypes
