import SampleTypes.Declaration.Basic
import SampleTypes.Inference.Shape
import SampleTypes.Naming.Identifier

set_option autoImplicit false

/-! # Naming shapes

A nested object is declared under the name of its key. When that name is taken by another shape
it is put behind the name of its owner, and after that numbered. Objects of one name and one
shape share a declaration. -/

namespace SampleTypes

/-- The names given out so far. -/
structure Registry where
  /-- Names that no nested declaration may take. -/
  taken : List String
  /-- The nested declarations, the last one first. -/
  declared : List Declaration
  deriving Repr

namespace Registry

/-- All names in use. -/
def names (r : Registry) : List String :=
  r.declared.map (·.name) ++ r.taken

/-- The names that a shape with the name `base` inside `owner` may take, in order of
    preference. -/
def candidate (owner base : String) : Nat → String
  | 0 => base
  | 1 => owner ++ base
  | n => owner ++ base ++ toString n

/-- The declaration of that name. -/
def find? (r : Registry) (name : String) : Option Declaration :=
  r.declared.find? fun d => d.name == name

/-- Whether a shape with these members may take the name: it is free, or it is that of a
    declaration with the same members. -/
def admits (r : Registry) (members : List Member) (name : String) : Bool :=
  match r.find? name with
  | some d => d.members == members
  | none => !r.taken.contains name

/-- The name of a shape. Of two more candidates than there are names one is admitted. -/
def nameFor (r : Registry) (owner base : String) (members : List Member) : String :=
  let admitted? := (List.range (r.names.length + 2)).find? fun n =>
    r.admits members (candidate owner base n)
  candidate owner base (admitted?.getD 0)

/-- Give a shape its name, and declare it unless a declaration of that name is there. -/
def register (r : Registry) (owner base : String) (members : List Member) :
    String × Registry :=
  let name := r.nameFor owner base members
  match r.find? name with
  | some _ => (name, r)
  | none => (name, { r with declared := ⟨name, members⟩ :: r.declared })

end Registry

namespace Shape

mutual

/-- Declare the objects in a shape found under `key` inside `owner`, innermost first, and refer
    to the shape by a type. -/
def declare (owner key : String) : Shape → Registry → TypeExpr × Registry
  | .any, r => (.any, r)
  | .scalar type, r => (.value type, r)
  | .list item nullable, r =>
    let (type, r) := item.declare owner key r
    (.list type nullable, r)
  | .record slots, r =>
    let base := Naming.typeIdentifier key
    let (members, r) := declareSlots base slots r
    let (name, r) := r.register owner base members
    (.named name, r)

/-- Declare the objects in the slots of `owner`. -/
def declareSlots (owner : String) :
    List (String × Shape × Bool) → Registry → List Member × Registry
  | [], r => ([], r)
  | (key, shape, nullable) :: rest, r =>
    let (type, r) := shape.declare owner key r
    let (members, r) := declareSlots owner rest r
    (⟨key, type, nullable⟩ :: members, r)

end

end Shape

end SampleTypes
