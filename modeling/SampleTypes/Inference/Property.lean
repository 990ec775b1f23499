import SampleTypes.Inference.Classify

set_option autoImplicit false

/-! # Property trees

A document annotated with types: every value with its key, its type and its parts. The type of
an array is read off the types of its parts, so each value is classified once. -/

namespace SampleTypes

open Json (Value)

/-- A value in its place. -/
structure Property where
  /-- The key of a member; none for the root and for the elements of an array. -/
  key : Option String
  node : Value
  type : ValueType
  /-- The members of an object or the elements of an array, in their order. -/
  children : List Property
  deriving Repr, Inhabited

namespace Property

/-- Whether the value is `null`. -/
def isNull (p : Property) : Bool := p.node.isNull

/-- Whether the value is `null` or an array that holds a `null`. -/
def isNullable (p : Property) : Bool := p.node.isNullable

/-- The distinct keys of the parts, in the order of their first appearance. -/
def keys (p : Property) : List String :=
  (p.children.filterMap (·.key)).eraseDups

/-- A property whose parts are known. -/
def assemble (key : Option String) (node : Value) (children : List Property) :
    Except Error Property :=
  match node with
  | .array _ =>
    .ok ⟨key, node, .ofElements (children.map fun c => (c.isNull, c.type)), children⟩
  | _ =>
    match leafType node with
    | .ok type => .ok ⟨key, node, type, children⟩
    | .error e => .error e

mutual

/-- The property of a value with this key. -/
def ofNode (key : Option String) : Value → Except Error Property
  | .array items =>
    match ofItems items with
    | .ok children => assemble key (.array items) children
    | .error e => .error e
  | .object members =>
    match ofMembers members with
    | .ok children => assemble key (.object members) children
    | .error e => .error e
  | .null => assemble key .null []
  | .bool b => assemble key (.bool b) []
  | .number literal => assemble key (.number literal) []
  | .string text => assemble key (.string text) []

/-- The properties of the elements of an array. -/
def ofItems : List Value → Except Error (List Property)
  | [] => .ok []
  | v :: rest =>
    match ofNode none v with
    | .error e => .error e
    | .ok p =>
      match ofItems rest with
      | .ok ps => .ok (p :: ps)
      | .error e => .error e

/-- The properties of the members of an object. -/
def ofMembers : List (String × Value) → Except Error (List Property)
  | [] => .ok []
  | (key, v) :: rest =>
    match ofNode (some key) v with
    | .error e => .error e
    | .ok p =>
      match ofMembers rest with
      | .ok ps => .ok (p :: ps)
      | .error e => .error e

end

/-- The tree of a document. -/
def root (document : Value) : Except Error Property :=
  ofNode none document

/-! ## Weight

Every value counts, and every step from a value to one of its parts. -/

mutual

/-- The weight of a tree. -/
def weight : Property → Nat
  | ⟨_, _, _, children⟩ => weightAll children + children.length + 1

/-- The weight of a list of trees. -/
def weightAll : List Property → Nat
  | [] => 0
  | p :: rest => p.weight + weightAll rest

end

theorem weight_eq (p : Property) :
    p.weight = weightAll p.children + p.children.length + 1 := by
  cases p; rw [weight]

theorem weightAll_append (ps qs : List Property) :
    weightAll (ps ++ qs) = weightAll ps + weightAll qs := by
  induction ps with
  | nil => simp [weightAll]
  | cons p ps ih => simp only [List.cons_append, weightAll, ih]; omega

theorem weightAll_filter_le (q : Property → Bool) (ps : List Property) :
    weightAll (ps.filter q) ≤ weightAll ps := by
  induction ps with
  | nil => simp [weightAll]
  | cons p ps ih =>
    rw [List.filter_cons]
    split
    · simp only [weightAll]; omega
    · simp only [weightAll]; omega

/-- The parts of a list of trees, pooled, weigh less than the trees: one for each tree and one for
    each part is missing. -/
theorem weightAll_children (ps : List Property) :
    weightAll (ps.flatMap (·.children)) + (ps.flatMap (·.children)).length + ps.length
      = weightAll ps := by
  induction ps with
  | nil => simp [weightAll]
  | cons p ps ih =>
    simp only [List.flatMap_cons, weightAll_append, List.length_append, List.length_cons,
      weightAll, weight_eq]
    omega

end Property

end SampleTypes
