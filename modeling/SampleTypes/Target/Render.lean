import SampleTypes.Target.CSharp
import SampleTypes.Target.Import
import SampleTypes.Target.Python

set_option autoImplicit false

/-! # Generated sources

The imports, a blank line, and the declarations with a blank line between any two. No
declarations make an empty source. -/

namespace SampleTypes

/-- The source of a declaration in the style of the options. -/
def Declaration.render (o : Options) (d : Declaration) : Except Error String :=
  match o.style with
  | .record => CSharp.render .record o d
  | .classType => CSharp.render .classType o d
  | .structType => CSharp.render .structType o d
  | .dataClass => Python.render .dataClass o d
  | .plainClass => Python.render .plainClass o d

/-- The sources of declarations, in their order. -/
def renderAll (o : Options) : List Declaration → Except Error (List String)
  | [] => .ok []
  | d :: rest =>
    match d.render o with
    | .error e => .error e
    | .ok block =>
      match renderAll o rest with
      | .ok blocks => .ok (block :: blocks)
      | .error e => .error e

/-- What a source with these declarations imports. -/
def importsFor (o : Options) (declarations : List Declaration) : List Import :=
  match o.style with
  | .record | .classType | .structType => Import.ofDeclarations .csharp declarations
  | .dataClass => .dataclass :: Import.ofDeclarations .python declarations
  | .plainClass => if o.typeHints then Import.ofDeclarations .python declarations else []

/-- The head of a source: its import lines and the blank line below them. -/
def importBlock (o : Options) (declarations : List Declaration) : String :=
  match Import.lines (importsFor o declarations) o.style.language with
  | [] => ""
  | lines => "\n".intercalate lines ++ "\n\n"

/-- The language must have the style. -/
def checkTarget (o : Options) : Except Error Unit :=
  if o.style.language = o.language then .ok ()
  else .error (.unsupportedTarget o.language o.style)

/-- The source with these declarations. -/
def renderDeclarations (o : Options) (declarations : List Declaration) : Except Error String :=
  if declarations.isEmpty then .ok ""
  else
    match renderAll o declarations with
    | .ok blocks => .ok (importBlock o declarations ++ "\n\n".intercalate blocks ++ "\n")
    | .error e => .error e

end SampleTypes
