import SampleTypes.Json.Value

set_option autoImplicit false

/-! # The values inside a value

Statements about the numbers or the objects of a document range over all its parts, however deep
they stand. -/

namespace SampleTypes.Json.Value

mutual

/-- A value and the values inside it, in the order of the document. -/
def parts : Value → List Value
  | .null => [.null]
  | .bool b => [.bool b]
  | .number literal => [.number literal]
  | .string text => [.string text]
  | .array items => .array items :: itemParts items
  | .object members => .object members :: memberParts members

/-- The parts of the elements of an array. -/
def itemParts : List Value → List Value
  | [] => []
  | v :: rest => v.parts ++ itemParts rest

/-- The parts of the members of an object. -/
def memberParts : List (String × Value) → List Value
  | [] => []
  | (_, v) :: rest => v.parts ++ memberParts rest

end

theorem itemParts_eq (items : List Value) : itemParts items = items.flatMap parts := by
  induction items with
  | nil => rw [itemParts]; rfl
  | cons v rest ih => rw [itemParts, ih, List.flatMap_cons]

theorem memberParts_eq (members : List (String × Value)) :
    memberParts members = members.flatMap fun m => m.2.parts := by
  induction members with
  | nil => rw [memberParts]; rfl
  | cons m rest ih => obtain ⟨key, v⟩ := m; rw [memberParts, ih, List.flatMap_cons]

theorem parts_array (items : List Value) :
    (Value.array items).parts = .array items :: items.flatMap parts := by
  rw [parts, itemParts_eq]

theorem parts_object (members : List (String × Value)) :
    (Value.object members).parts = .object members :: members.flatMap fun m => m.2.parts := by
  rw [parts, memberParts_eq]

/-! ## Numbers -/

/-- The literal of a number. -/
def literal? : Value → Option String
  | .number literal => some literal
  | _ => none

/-- The literals of all numbers in a value, in the order of the document. -/
def literals (v : Value) : List String :=
  v.parts.filterMap literal?

theorem literals_array (items : List Value) :
    (Value.array items).literals = items.flatMap literals := by
  rw [literals, parts_array, List.filterMap_cons_none rfl, List.filterMap_flatMap]
  rfl

theorem literals_object (members : List (String × Value)) :
    (Value.object members).literals = members.flatMap fun m => m.2.literals := by
  rw [literals, parts_object, List.filterMap_cons_none rfl, List.filterMap_flatMap]
  rfl

/-! ## Keys -/

/-- The keys of an object. -/
def keys? : Value → Option (List String)
  | .object members => some (members.map (·.1))
  | _ => none

/-- The keys of each object in a value. -/
def keyLists (v : Value) : List (List String) :=
  v.parts.filterMap keys?

theorem keyLists_array (items : List Value) :
    (Value.array items).keyLists = items.flatMap keyLists := by
  rw [keyLists, parts_array, List.filterMap_cons_none rfl, List.filterMap_flatMap]
  rfl

theorem keyLists_object (members : List (String × Value)) :
    (Value.object members).keyLists
      = members.map (·.1) :: members.flatMap fun m => m.2.keyLists := by
  have hkeys : (Value.object members).keys? = some (members.map (·.1)) := rfl
  rw [keyLists, parts_object, List.filterMap_cons_some hkeys, List.filterMap_flatMap]
  rfl

end SampleTypes.Json.Value
