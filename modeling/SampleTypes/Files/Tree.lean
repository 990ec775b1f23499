import SampleTypes.Files.Fault
import SampleTypes.Files.Path

set_option autoImplicit false

/-! # Trees of files

The files and directories that a run can see, by the names that lead to them from the root. The
operations fail as the system does: each step of a path must lead through a directory, a
directory is not read, and a file is never put where a directory is. -/

namespace SampleTypes.Files

/-- The names that lead from the root to a file or a directory. -/
abbrev Location := List String

/-- What is at a location. -/
inductive Entry where
  | directory
  | file (content : List UInt8)
  deriving Repr, DecidableEq

/-- Files and directories, and the directory that relative paths start at. The root is a directory
    that needs no entry. -/
structure Tree where
  workingDirectory : Location
  entries : List (Location × Entry)
  deriving Repr, DecidableEq

namespace Tree

/-! ## Entries -/

/-- What is at a location. -/
def get? (t : Tree) (l : Location) : Option Entry :=
  if l.isEmpty then some .directory else t.entries.lookup l

/-- Whether a location is that of a directory. -/
def isDirectory (t : Tree) (l : Location) : Bool :=
  t.get? l == some .directory

/-- Put an entry at a location, in the place of the one there. -/
def put (t : Tree) (l : Location) (e : Entry) : Tree :=
  { t with entries := (l, e) :: t.entries.filter fun entry => entry.1 != l }

/-- Put a directory at every location on the way to `names`, from `start` on. -/
def putDirectories (t : Tree) (start : Location) : (names : List String) → Tree
  | [] => t
  | name :: names => (t.put (start ++ [name]) .directory).putDirectories (start ++ [name]) names

/-- The tree with nothing but a working directory in it. -/
def ofWorkingDirectory (l : Location) : Tree :=
  (Tree.mk l []).putDirectories [] l

/-- Put a file and the directories on the way to it below the working directory. -/
def putFile (t : Tree) (names : List String) (content : List UInt8) : Tree :=
  (t.putDirectories t.workingDirectory names.dropLast).put (t.workingDirectory ++ names)
    (.file content)

/-- The files below the working directory, by the names that lead to them from there. -/
def files (t : Tree) : List (List String × List UInt8) :=
  t.entries.filterMap fun (l, e) =>
    match e with
    | .directory => none
    | .file content =>
      if t.workingDirectory.isPrefixOf l then some (l.drop t.workingDirectory.length, content)
      else none

/-! ## Paths -/

/-- The greatest number of octets in a name. -/
def maxName : Nat := 255

/-- The greatest number of octets in a path. -/
def maxPath : Nat := 4095

/-- The location that segments lead to from `start`. -/
def walk (t : Tree) (start : Location) : (segments : List String) → Except FileFault Location
  | [] => .ok start
  | segment :: more =>
    if !t.isDirectory start then .error .notDirectory
    else if Path.isIdle segment then t.walk start more
    else if segment = ".." then t.walk start.dropLast more
    else if maxName < segment.utf8ByteSize then .error .nameTooLong
    else if (t.get? (start ++ [segment])).isSome then t.walk (start ++ [segment]) more
    else .error .notFound

/-- The location that segments of a path lead to. -/
def follow (t : Tree) (p : Path) (segments : List String) : Except FileFault Location :=
  if maxPath < p.text.utf8ByteSize then .error .nameTooLong
  else t.walk (if p.isAbsolute then [] else t.workingDirectory) segments

/-- The location of the directory that segments of a path lead to. -/
def followToDirectory (t : Tree) (p : Path) (segments : List String) :
    Except FileFault Location :=
  match t.follow p segments with
  | .error e => .error e
  | .ok l => if t.isDirectory l then .ok l else .error .notDirectory

/-- Whether a path leads to a directory. -/
def leadsToDirectory (t : Tree) (p : Path) : Bool :=
  match t.follow p p.segments with
  | .ok l => t.isDirectory l
  | .error _ => false

/-! ## Operations -/

/-- The content of a file. -/
def read (t : Tree) (p : Path) : Except FileFault (List UInt8) :=
  match t.follow p p.segments with
  | .error e => .error e
  | .ok l =>
    match t.get? l with
    | some (.file content) => .ok content
    | some .directory => .error .isDirectory
    | none => .error .notFound

/-- A path taken apart at its last segment, not counting empty ones at the end; the flag tells
    whether there are any. -/
def splitLast (p : Path) : List String × Option String × Bool :=
  match p.segments.reverse.dropWhile (· == "") with
  | [] => ([], none, true)
  | last :: before => (before.reverse, some last, p.segments.getLast? == some "")

/-- Make one directory. -/
def makeDirectory (t : Tree) (p : Path) : Except FileFault Tree :=
  let (before, last, _) := splitLast p
  match t.followToDirectory p before with
  | .error e => .error e
  | .ok l =>
    match last with
    | none => .error .alreadyThere
    | some name =>
      if name = "." ∨ name = ".." then .error .alreadyThere
      else if maxName < name.utf8ByteSize then .error .nameTooLong
      else if (t.get? (l ++ [name])).isSome then .error .alreadyThere
      else .ok (t.put (l ++ [name]) .directory)

/-- Make a directory and all that lead to it, as far as they are not there. The tree has those
    that were made, also if a later one could not be. -/
def makeDirectories (t : Tree) (p : Path) : Tree × Option FileFault :=
  match h : p.parent? with
  | none => (t, none)
  | some q =>
    match t.makeDirectory p with
    | .ok made => (made, none)
    | .error .notFound =>
      have := Path.length_parent?_lt h
      match t.makeDirectories q with
      | (made, some e) => (made, some e)
      | (made, none) =>
        match made.makeDirectory p with
        | .ok all => (all, none)
        | .error e => (made, if made.leadsToDirectory p then none else some e)
    | .error e => (t, if t.leadsToDirectory p then none else some e)
termination_by p.segments.length

/-- Put a file where a path leads, in the place of the file there. -/
def replaceFile (t : Tree) (p : Path) (content : List UInt8) : Except FileFault Tree :=
  let (before, last, slash) := splitLast p
  match t.followToDirectory p before with
  | .error e => .error e
  | .ok l =>
    match last with
    | none => .error .busy
    | some name =>
      if name = "." ∨ name = ".." then .error .busy
      else if maxName < name.utf8ByteSize then .error .nameTooLong
      else if slash then .error .notDirectory
      else if t.isDirectory (l ++ [name]) then .error .isDirectory
      else .ok (t.put (l ++ [name]) (.file content))

end Tree

end SampleTypes.Files
