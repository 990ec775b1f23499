import SampleTypes.Files.Tree

set_option autoImplicit false

/-! # Files replaced as a whole

A file is replaced by way of another one. That one is created under a name of its own, written,
and moved to where the file is to be; whatever goes wrong on the way, it is removed again. So the
file has its old content or its new one, and nothing in between. -/

namespace SampleTypes.Files

/-- What the system adds to a replacement: the name of the passing file, chosen in knowledge of
    those in its directory, and the faults that have no reason in a tree, such as a full disk. -/
structure Passage where
  name : (taken : List String) → String
  /-- The fault that creating the passing file meets. -/
  creating : Option FileFault
  /-- The fault that writing meets, and the number of octets written by then. -/
  writing : Option (Nat × FileFault)
  /-- The fault that moving the passing file to its place meets. -/
  moving : Option FileFault

namespace Tree

/-- The names in a directory. -/
def namesIn (t : Tree) (l : Location) : List String :=
  t.entries.filterMap fun entry => if entry.1.dropLast == l then entry.1.getLast? else none

/-- Remove what is at a location. -/
def remove (t : Tree) (l : Location) : Tree :=
  { t with entries := t.entries.filter fun entry => entry.1 != l }

/-- Create the passing file in the directory that a path leads to. It takes the place of
    nothing. -/
def createPassing (t : Tree) (g : Passage) (directory : Path) :
    Except FileFault (Location × Tree) :=
  match g.creating with
  | some e => .error e
  | none =>
    match t.followToDirectory directory directory.segments with
    | .error e => .error e
    | .ok l =>
      let passing := l ++ [g.name (t.namesIn l)]
      if (t.get? passing).isSome then .error .alreadyThere
      else .ok (passing, t.put passing (.file []))

/-- Write the passing file. A fault leaves the front of the content in it. -/
def writePassing (t : Tree) (g : Passage) (passing : Location) (content : List UInt8) :
    Tree × Option FileFault :=
  match g.writing with
  | some (written, e) => (t.put passing (.file (content.take written)), some e)
  | none => (t.put passing (.file content), none)

/-- Move the passing file to where a path leads, in the place of the file there. -/
def movePassing (t : Tree) (g : Passage) (passing : Location) (target : Path) :
    Except FileFault Tree :=
  match g.moving with
  | some e => .error e
  | none =>
    match t.get? passing with
    | some (.file content) => (t.remove passing).replaceFile target content
    | some .directory => .error .isDirectory
    | none => .error .notFound

end Tree

end SampleTypes.Files
