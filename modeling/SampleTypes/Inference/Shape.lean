import SampleTypes.Inference.Property

set_option autoImplicit false

/-! # Shapes

The values that share a slot, such as those under one key of several objects or the elements of
several arrays, are merged into one shape. Arrays pool their elements, objects merge member by
member and must have the same keys, and values of one scalar type keep it; whatever else meets
in a slot has nothing in common, and its shape is unknown. A `null` says nothing about the shape
and makes the slot nullable. -/

namespace SampleTypes

/-- What is known about the values of a slot, their being nullable aside. -/
inductive Shape where
  | any
  | scalar (type : ValueType)
  | list (item : Shape) (nullable : Bool)
  /-- An object with these keys, each with the shape of its slot and whether it is nullable. -/
  | record (members : List (String × Shape × Bool))
  deriving Repr, BEq, Inhabited

/-! ## What the values of a slot have in common -/

/-- What the values of a slot that are not `null` have in common. -/
inductive Common where
  | nothing
  | scalar (type : ValueType)
  /-- They are arrays, with these elements between them. -/
  | arrays (elements : List Property)
  /-- They are objects. -/
  | objects (objects : List Property)

/-- The values that are not `null`. -/
def present (values : List Property) : List Property :=
  values.filter fun v => !v.isNull

/-- Whether a value is an array that says nothing about the type of its elements. -/
def Property.isHollowArray (v : Property) : Bool :=
  v.node.isArray && v.children.all (·.isNull)

/-- The values whose types say what a slot holds. -/
def evidence (values : List Property) : List Property :=
  (present values).filter fun v => !v.isHollowArray

/-- What values have in common whose types these are: one type settles it. -/
def Common.ofTypes (values : List Property) : (types : List ValueType) → Common
  | [.object] => .objects values
  | [type] => .scalar type
  | _ => .nothing

/-- Look what the values of a slot have in common. Arrays pool their elements even if their types
    differ, and a hollow one goes with other arrays alone. -/
def Common.of (values : List Property) : Common :=
  let types := ValueType.distinct ((evidence values).map fun v => (false, v.type))
  let hollow := (present values).any (·.isHollowArray)
  if types.isEmpty then
    if hollow then .arrays ((present values).flatMap (·.children)) else .nothing
  else if types.all (·.isArray) then .arrays ((present values).flatMap (·.children))
  else if hollow then .nothing
  else ofTypes (present values) types

theorem weightAll_present_le (values : List Property) :
    Property.weightAll (present values) ≤ Property.weightAll values :=
  Property.weightAll_filter_le _ values

theorem Common.of_eq_nothing {values : List Property} (h : present values = []) :
    Common.of values = .nothing := by
  simp [Common.of, evidence, h, ValueType.distinct]

/-- Arrays are known by their pooled elements. -/
theorem Common.eq_pooled {values elements : List Property}
    (h : Common.of values = .arrays elements) :
    elements = (present values).flatMap (·.children) ∧ present values ≠ [] := by
  refine ⟨?_, fun hnone => by rw [Common.of_eq_nothing hnone] at h; cases h⟩
  unfold Common.of at h
  simp only at h
  split at h
  · split at h <;> cases h
    rfl
  · split at h
    · cases h
      rfl
    · split at h
      · cases h
      · unfold Common.ofTypes at h
        split at h <;> cases h

theorem Common.weightAll_arrays {values elements : List Property}
    (h : Common.of values = .arrays elements) :
    Property.weightAll elements < Property.weightAll values := by
  obtain ⟨rfl, hne⟩ := Common.eq_pooled h
  have hle := weightAll_present_le values
  have heq := Property.weightAll_children (present values)
  have hpos := List.length_pos_iff.2 hne
  omega

theorem Common.eq_present {values objects : List Property}
    (h : Common.of values = .objects objects) : objects = present values ∧ objects ≠ [] := by
  have hne : present values ≠ [] := fun hnone => by rw [Common.of_eq_nothing hnone] at h; cases h
  unfold Common.of at h
  simp only at h
  split at h
  · split at h <;> cases h
  · split at h
    · cases h
    · split at h
      · cases h
      · unfold Common.ofTypes at h
        split at h <;> cases h
        exact ⟨rfl, hne⟩

/-! ## Keys of merged objects -/

/-- Whether two objects have the same keys. -/
def sameKeys (expected found : List String) : Bool :=
  found.length == expected.length && found.all fun k => expected.contains k

/-- Compare the objects from the place `index` on with the keys of the first one. -/
def checkKeys (path : String) (expected : List String) : (index : Nat) → List Property →
    Except Error Unit
  | _, [] => .ok ()
  | index, p :: rest =>
    if sameKeys expected p.keys then checkKeys path expected (index + 1) rest
    else
      .error (.incompatibleShapes (path ++ "[" ++ toString index ++ "]") expected p.keys)

/-- The keys of merged objects, in the order of the first one. -/
def mergedKeys (path : String) : List Property → Except Error (List String)
  | [] => .ok []
  | first :: rest =>
    match checkKeys path first.keys 1 rest with
    | .ok () => .ok first.keys
    | .error e => .error e

theorem eraseDups_length_le (keys : List String) : keys.eraseDups.length ≤ keys.length := by
  cases keys with
  | nil => simp
  | cons k rest =>
    rw [List.eraseDups_cons]
    have hle := List.length_filter_le (fun b => !b == k) rest
    have ih := eraseDups_length_le (rest.filter fun b => !b == k)
    simp only [List.length_cons]
    omega
termination_by keys.length
decreasing_by
  simp only [List.length_cons]
  omega

theorem mergedKeys_length_le {path : String} {objects : List Property} {keys : List String}
    (h : mergedKeys path objects = .ok keys) :
    keys.length ≤ (objects.flatMap (·.children)).length := by
  cases objects with
  | nil => cases h; simp
  | cons first rest =>
    rw [mergedKeys] at h
    split at h
    · cases h
      have := eraseDups_length_le (first.children.filterMap (·.key))
      have := List.length_filterMap_le (·.key) first.children
      rw [List.flatMap_cons, List.length_append, Property.keys]
      omega
    · cases h

/-! ## Merging -/

/-- The parts that stand under a key. -/
def column (key : String) (parts : List Property) : List Property :=
  parts.filter fun p => p.key == some key

namespace Shape

mutual

/-- The shape of the values of a slot, and whether the slot is nullable. `path` leads to the slot
    from the root. -/
def ofValues (path : String) (values : List Property) : Except Error (Shape × Bool) :=
  let nullable := values.any (·.isNull)
  match _h : Common.of values with
  | .nothing => .ok (.any, nullable)
  | .scalar type => .ok (.scalar type, nullable)
  | .arrays elements =>
    match ofValues path elements with
    | .ok (item, _) => .ok (.list item ((present values).any (·.isNullable)), nullable)
    | .error e => .error e
  | .objects objects =>
    match _hk : mergedKeys path objects with
    | .error e => .error e
    | .ok keys =>
      match ofKeys path (objects.flatMap (·.children)) keys with
      | .ok [] => .ok (.any, nullable)
      | .ok members => .ok (.record members, nullable)
      | .error e => .error e
termination_by Property.weightAll values
decreasing_by
  · exact Common.weightAll_arrays _h
  · obtain ⟨rfl, hne⟩ := Common.eq_present _h
    have := mergedKeys_length_le _hk
    have := weightAll_present_le values
    have := Property.weightAll_children (present values)
    have := List.length_pos_iff.2 hne
    omega

/-- The slots of merged objects, in the order of `keys`; `parts` are the members of all of
    them. -/
def ofKeys (path : String) (parts : List Property) (keys : List String) :
    Except Error (List (String × Shape × Bool)) :=
  match keys with
  | [] => .ok []
  | key :: rest =>
    match ofValues (path ++ "." ++ key) (column key parts) with
    | .error e => .error e
    | .ok (shape, nullable) =>
      match ofKeys path parts rest with
      | .ok members => .ok ((key, shape, nullable) :: members)
      | .error e => .error e
termination_by Property.weightAll parts + keys.length
decreasing_by
  · have := Property.weightAll_filter_le (fun p => p.key == some key) parts
    simp only [column, List.length_cons]
    omega
  · simp only [List.length_cons]
    omega

end

end Shape

/-! ## The root -/

/-- The path of the root. -/
def rootPath : String := "$"

/-- The elements of a root array, which must be objects, `null` aside. -/
def elementObjects : List Property → Except Error (List Property)
  | [] => .ok []
  | p :: rest =>
    if p.isNull then elementObjects rest
    else if p.node.isObject then
      match elementObjects rest with
      | .ok objects => .ok (p :: objects)
      | .error e => .error e
    else .error (.unsupportedRoot p.node.kind)

/-- The objects that the root declaration describes: the root itself, or the elements of a root
    array. -/
def rootObjects (root : Property) : Except Error (List Property) :=
  if root.node.isObject then .ok [root]
  else if !root.node.isArray then .error (.unsupportedRoot root.node.kind)
  else if root.children.isEmpty then .error .emptyRootArray
  else
    match elementObjects root.children with
    | .error e => .error e
    | .ok [] => .error (.unsupportedRoot "an array of nulls")
    | .ok objects => .ok objects

/-- The slots of the root declaration. -/
def rootMembers (root : Property) : Except Error (List (String × Shape × Bool)) :=
  match rootObjects root with
  | .error e => .error e
  | .ok objects =>
    match mergedKeys rootPath objects with
    | .error e => .error e
    | .ok keys => Shape.ofKeys rootPath (objects.flatMap (·.children)) keys

end SampleTypes
