import SampleTypes.Declaration.Registry
import SampleTypes.Naming.Fresh
import SampleTypes.Target.Alias

set_option autoImplicit false

/-! # Declarations of a document

The root comes first, then the nested declarations, the last one named first. A document whose
objects have no members declares nothing. -/

namespace SampleTypes

/-- The declarations for the slots of a root. The root's name gives way to the names that the
    language reserves. -/
def declarationsOf (rootName : String) (language : Language)
    (slots : List (String × Shape × Bool)) : List Declaration :=
  if slots.isEmpty then []
  else
    let name := Naming.fresh language.reservedNames "" rootName
    let (members, r) := Shape.declareSlots name slots ⟨name :: language.reservedNames, []⟩
    ⟨name, members⟩ :: r.declared

/-- The declarations for a document. -/
def Property.declarations (rootName : String) (language : Language) (root : Property) :
    Except Error (List Declaration) :=
  match rootMembers root with
  | .ok slots => .ok (declarationsOf rootName language slots)
  | .error e => .error e

end SampleTypes
