import SampleTypes.Naming.Fresh
import SampleTypes.Naming.Identifier
import SampleTypes.Target.Spelling

set_option autoImplicit false

/-! # Python declarations

Data classes, and plain classes whose constructor assigns every member. A data class lives on its
annotations; a plain class may do without. -/

namespace SampleTypes.Python

/-- The two forms of a declaration. -/
inductive Form where
  | dataClass
  | plainClass
  deriving Repr, DecidableEq

/-- Whether members are annotated. -/
def isHinted (form : Form) (o : Options) : Bool :=
  form == .dataClass || o.typeHints

/-- The identifiers of the members of a declaration. -/
def memberNames (d : Declaration) : List String :=
  Naming.grantAll "_" [] (d.members.map fun m => Naming.pythonMember m.key)

/-- The members of a declaration as parameters, with their annotations if they have any. -/
def parameters (form : Form) (o : Options) (d : Declaration) : Except Error (List String) :=
  if isHinted form o then
    match spellAll .python d.members with
    | .ok types => .ok (((memberNames d).zip types).map fun nt => nt.1 ++ ": " ++ nt.2)
    | .error e => .error e
  else .ok (memberNames d)

/-- The line above a data class. -/
def decorator : Mutability → String
  | .initOnly => "@dataclass(frozen=True)"
  | .settable => "@dataclass"

/-- The lines of a declaration with these parameters. -/
def lines (form : Form) (o : Options) (d : Declaration) (parameters : List String) :
    List String :=
  let unit := o.indentation.unit
  match form with
  | .dataClass =>
    decorator o.mutability :: ("class " ++ d.name ++ ":") :: parameters.map (unit ++ ·)
  | .plainClass =>
    let returns := if o.typeHints then " -> None" else ""
    ("class " ++ d.name ++ ":")
      :: (unit ++ "def __init__(self, " ++ ", ".intercalate parameters ++ ")" ++ returns ++ ":")
      :: (memberNames d).map fun name => unit ++ unit ++ "self." ++ name ++ " = " ++ name

/-- The source of a declaration. -/
def render (form : Form) (o : Options) (d : Declaration) : Except Error String :=
  match parameters form o d with
  | .ok ps => .ok ("\n".intercalate (lines form o d ps))
  | .error e => .error e

end SampleTypes.Python
