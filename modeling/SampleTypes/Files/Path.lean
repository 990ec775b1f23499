set_option autoImplicit false

/-! # Paths

A path is a text whose segments are separated by slashes. Empty segments and single points say
nothing, apart from a point in front, and are kept so that a path can be shown as it was
given. -/

namespace SampleTypes.Files

/-- A path. An absolute one starts at the root, any other one at the working directory. -/
structure Path where
  isAbsolute : Bool
  segments : List String
  deriving Repr, DecidableEq

/-- The segments between the slashes of a text. -/
def splitSegments : List Char → List (List Char)
  | [] => [[]]
  | c :: rest =>
    if c = '/' then [] :: splitSegments rest
    else
      match splitSegments rest with
      | [] => [[c]]
      | segment :: more => (c :: segment) :: more

namespace Path

/-- The path that a text denotes. -/
def ofText (text : String) : Path :=
  match text.toList with
  | '/' :: rest => ⟨true, (splitSegments rest).map String.ofList⟩
  | s => ⟨false, (splitSegments s).map String.ofList⟩

/-- The text of a path. -/
def text (p : Path) : String :=
  (if p.isAbsolute then "/" else "") ++ "/".intercalate p.segments

/-- Whether a segment says nothing, behind the first one. -/
def isIdle (segment : String) : Bool :=
  segment == "" || segment == "."

/-- The path without the idle segments at its end. A point that a relative path starts with
    stays. -/
def trimEnd (p : Path) : Path :=
  let kept := (p.segments.reverse.dropWhile isIdle).reverse
  if kept.isEmpty ∧ ¬ p.isAbsolute ∧ p.segments.head? = some "." then { p with segments := ["."] }
  else { p with segments := kept }

/-- The path of the directory that the last segment is in. The root and the empty path are in
    none. -/
def parent? (p : Path) : Option Path :=
  let kept := p.trimEnd
  if kept.segments.isEmpty then none
  else some (trimEnd { kept with segments := kept.segments.dropLast })

theorem length_trimEnd_le (p : Path) : p.trimEnd.segments.length ≤ p.segments.length := by
  rw [trimEnd]
  split
  · rename_i h
    cases hs : p.segments with
    | nil => simp [hs] at h
    | cons _ _ => simp
  · simp only [List.length_reverse]
    have := (List.dropWhile_sublist isIdle (l := p.segments.reverse)).length_le
    simpa using this

theorem length_parent?_lt {p q : Path} (h : p.parent? = some q) :
    q.segments.length < p.segments.length := by
  rw [parent?] at h
  split at h
  · cases h
  · rename_i hk
    cases h
    have hp := length_trimEnd_le p
    have hq := length_trimEnd_le { p.trimEnd with segments := p.trimEnd.segments.dropLast }
    have hne : 0 < p.trimEnd.segments.length := by
      cases hs : p.trimEnd.segments with
      | nil => simp [hs] at hk
      | cons _ _ => simp
    simp only [List.length_dropLast] at hq
    omega

/-- The name of the file that a path ends with. -/
def fileName? (p : Path) : Option String :=
  match p.trimEnd.segments.getLast? with
  | none => none
  | some name => if name = "." ∨ name = ".." then none else some name

/-- Whether a file name has an extension, an empty one included. A point in front starts none. -/
def hasExtension (name : String) : Bool :=
  (name.toList.drop 1).contains '.'

/-- The path with an extension added to the file name, unless there is one. -/
def orExtension (p : Path) (extension : String) : Path :=
  match p.fileName? with
  | none => p
  | some name =>
    if hasExtension name then p
    else
      let kept := p.trimEnd
      { kept with segments := kept.segments.dropLast ++ [name ++ "." ++ extension] }

end Path

end SampleTypes.Files
