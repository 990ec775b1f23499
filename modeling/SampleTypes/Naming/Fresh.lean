set_option autoImplicit false

/-! # Names not taken yet

A name that is taken already gets a number: the least one from two on that makes it free. -/

namespace SampleTypes.Naming

/-- The name with a number behind it. -/
def numbered (separator base : String) (n : Nat) : String :=
  base ++ separator ++ toString n

/-- The name itself if it is free, and else the name with the least number from two on that is.
    Of `taken.length + 1` numbers one is free. -/
def fresh (taken : List String) (separator base : String) : String :=
  if base ∈ taken then
    let free? := (List.range' 2 (taken.length + 1)).find? fun n =>
      numbered separator base n ∉ taken
    numbered separator base (free?.getD 2)
  else base

/-- The names that a list of claims is granted, each fresh among those granted before. -/
def grantAll (separator : String) : (granted : List String) → (claims : List String) → List String
  | _, [] => []
  | granted, base :: rest =>
    let name := fresh granted separator base
    name :: grantAll separator (name :: granted) rest

end SampleTypes.Naming
